import Mmorpg.Transition.Blocks
import Mmorpg.Transition.Run

/-!
# Assembling blocks from chunks

A loop that eats up a chunk and hands on a block whenever one is complete.  If
each round completes the block that was begun or keeps all it was given, then
the blocks are handed on unchanged, however the stream was cut into chunks.
-/

namespace Mmorpg.Transition

universe u v w

variable {α : Type u} {σ : Type v} {ρ : Type w}

/-- The blocks that are complete in the first `length` elements. -/
def wholeBlocks : List (List α) → Nat → List (List α)
  | [], _ => []
  | block :: later, length =>
      if block.length ≤ length then block :: wholeBlocks later (length - block.length) else []

/-- The length of the stream decides which blocks have gone by. -/
theorem Cut.done_eq {blocks done rest : List (List α)} {stream tail : List α}
    (cut : Cut blocks done rest stream tail) : done = wholeBlocks blocks stream.length := by
  obtain ⟨rfl, rfl, _, incomplete⟩ := cut
  induction done with
  | nil =>
      cases rest with
      | nil => rfl
      | cons block later => simpa [wholeBlocks] using incomplete block rfl
  | cons block done ih =>
      have longer : ((block :: done).flatten ++ tail).length - block.length =
          (done.flatten ++ tail).length := by simp
      rw [List.cons_append, wholeBlocks, if_pos (by simp), longer, ← ih]

theorem prefix_wholeBlocks (blocks : List (List α)) (length : Nat) :
    wholeBlocks blocks length <+: blocks := by
  induction blocks generalizing length with
  | nil => exact List.prefix_rfl
  | cons block later ih =>
      rw [wholeBlocks]
      split
      · exact (List.prefix_append_right_inj [block]).mpr (ih _)
      · exact List.nil_prefix

theorem wholeBlocks_all (blocks : List (List α)) :
    wholeBlocks blocks blocks.flatten.length = blocks := by
  induction blocks with
  | nil => rfl
  | cons block later ih =>
      have shorter : (block :: later).flatten.length - block.length = later.flatten.length := by
        simp
      rw [wholeBlocks, if_pos (by simp), shorter, ih]

/-- What the rounds of `loop` do: the state that carries `kept` of a block
either completes it and hands it on, or carries all the data as well.  `result`
is what a loop without data returns. -/
structure Assembles (Block : List α → Prop) (loop : Nat → List α → σ → Option ρ)
    (result : σ → ρ) (Carries : List α → σ → Prop) (handed : σ → List (List α)) : Prop where
  nonempty : ∀ {block}, Block block → block ≠ []
  stops : ∀ fuel state, loop (fuel + 1) [] state = some (result state)
  completes : ∀ {kept needed state} fuel data, Block (kept ++ needed) → needed ≠ [] →
    Carries kept state → ∃ next, loop (fuel + 1) (needed ++ data) state = loop fuel data next ∧
      Carries [] next ∧ handed next = handed state ++ [kept ++ needed]
  keeps : ∀ {block kept data state} fuel, Block block → kept ++ data <+: block →
    (kept ++ data).length < block.length → data ≠ [] → Carries kept state →
      ∃ next, loop (fuel + 1) data state = loop fuel [] next ∧
        Carries (kept ++ data) next ∧ handed next = handed state

namespace Assembles

variable {Block : List α → Prop} {loop : Nat → List α → σ → Option ρ} {result : σ → ρ}
  {Carries : List α → σ → Prop} {handed : σ → List (List α)} {blocks : List (List α)}

/-- The loop on one chunk, with fuel for as many rounds as it has elements and
one more. -/
theorem loop_cut (assembles : Assembles Block loop result Carries handed)
    (areBlocks : ∀ block ∈ blocks, Block block) {kept data : List α} {state : σ} {fuel : Nat}
    (ahead : kept ++ data <+: blocks.flatten)
    (begun : ∀ block, blocks.head? = some block → kept.length < block.length)
    (carries : Carries kept state) (enough : data.length < fuel) :
    ∃ done rest tail next, Cut blocks done rest (kept ++ data) tail ∧
      loop fuel data state = some (result next) ∧ Carries tail next ∧
      handed next = handed state ++ done := by
  induction blocks generalizing kept data state fuel with
  | nil =>
      obtain ⟨rfl, rfl⟩ : kept = [] ∧ data = [] := by simpa using ahead
      obtain ⟨rounds, rfl⟩ := Nat.exists_eq_add_one_of_ne_zero (Nat.ne_of_gt enough)
      exact ⟨[], [], [], state, Cut.start (by simp), assembles.stops rounds state, carries,
        by simp⟩
  | cons block later ih =>
      obtain ⟨rounds, rfl⟩ := Nat.exists_eq_add_one_of_ne_zero (Nat.ne_zero_of_lt enough)
      have isBlock := areBlocks block List.mem_cons_self
      rw [List.flatten_cons] at ahead
      by_cases complete : block.length ≤ (kept ++ data).length
      · obtain ⟨beyond, split⟩ := List.prefix_of_prefix_length_le
          (List.prefix_append block later.flatten) ahead complete
        obtain ⟨needed, rfl⟩ : ∃ needed, block = kept ++ needed := by
          obtain ⟨needed, whole⟩ := List.prefix_of_prefix_length_le
            (List.prefix_append kept data) (split ▸ List.prefix_append block beyond)
            (begun block rfl).le
          exact ⟨needed, whole.symm⟩
        obtain rfl : data = needed ++ beyond := by simpa using split.symm
        have needs : needed ≠ [] := by
          rintro rfl
          simpa using begun _ rfl
        obtain ⟨next, goes, empty, hands⟩ := assembles.completes rounds beyond isBlock needs carries
        have fewer : beyond.length < rounds := by
          have positive := List.length_pos_iff.mpr needs
          rw [List.length_append] at enough
          omega
        have laterBlocks : ∀ other ∈ later, Block other :=
          fun other member => areBlocks other (List.mem_cons_of_mem _ member)
        have laterAhead : [] ++ beyond <+: later.flatten := by
          simpa [List.prefix_append_right_inj] using ahead
        have laterBegun : ∀ other, later.head? = some other → ([] : List α).length < other.length :=
          fun other first => List.length_pos_iff.mpr
            (assembles.nonempty (laterBlocks other (List.mem_of_head? first)))
        obtain ⟨done, rest, tail, final, cut, ends, stillCarries, handsAll⟩ :=
          ih laterBlocks laterAhead laterBegun empty fewer
        refine ⟨(kept ++ needed) :: done, rest, tail, final, ?_, goes.trans ends, stillCarries, ?_⟩
        · have longer : Cut ((kept ++ needed) :: later) ((kept ++ needed) :: done) rest
              (kept ++ needed ++ ([] ++ beyond)) tail := cut.cons
          simpa using longer
        · rw [handsAll, hands, List.append_assoc, List.singleton_append]
      · have short := Nat.not_le.mp complete
        have start : kept ++ data <+: block :=
          List.prefix_of_prefix_length_le ahead (List.prefix_append block _) short.le
        have cut : Cut (block :: later) [] (block :: later) (kept ++ data) (kept ++ data) := {
          blocks_eq := rfl
          stream_eq := rfl
          tail_prefix := by
            rw [List.flatten_cons]
            exact ahead
          incomplete := by
            rintro other ⟨⟩
            exact short }
        by_cases none_ : data = []
        · subst none_
          refine ⟨[], _, _, state, cut, assembles.stops rounds state, ?_, by simp⟩
          simpa using carries
        · obtain ⟨next, goes, carriesAll, hands⟩ :=
            assembles.keeps rounds isBlock start short none_ carries
          have positive := List.length_pos_iff.mpr none_
          obtain ⟨more, rfl⟩ : ∃ more, rounds = more + 1 :=
            Nat.exists_eq_add_one_of_ne_zero (by omega)
          exact ⟨[], _, _, next, cut, goes.trans (assembles.stops more next), carriesAll,
            by simp [hands]⟩

variable {feed : List α → σ → Option σ}

/-- Chunk after chunk, each with a loop of its own. -/
theorem run_cut (assembles : Assembles Block loop result Carries handed)
    (feeds : ∀ {chunk state next}, loop (chunk.length + 1) chunk state = some (result next) →
      feed chunk state = some next)
    (areBlocks : ∀ block ∈ blocks, Block block) {chunks rest : List (List α)}
    {stream tail : List α} {state : σ} (cut : Cut blocks (handed state) rest stream tail)
    (carries : Carries tail state) (ahead : stream ++ chunks.flatten <+: blocks.flatten) :
    ∃ rest tail final, run feed chunks state = some final ∧
      Cut blocks (handed final) rest (stream ++ chunks.flatten) tail ∧ Carries tail final := by
  induction chunks generalizing state rest stream tail with
  | nil => exact ⟨rest, tail, state, rfl, by simpa using cut, carries⟩
  | cons chunk later ih =>
      rw [List.flatten_cons, ← List.append_assoc] at ahead ⊢
      have within : tail ++ chunk <+: rest.flatten := by
        have first := (List.prefix_append _ _).trans ahead
        rw [cut.stream_eq, cut.blocks_eq, List.flatten_append, List.append_assoc] at first
        exact (List.prefix_append_right_inj _).mp first
      obtain ⟨done, rest', tail', next, again, ends, stillCarries, hands⟩ :=
        assembles.loop_cut
          (fun block member => areBlocks block (cut.blocks_eq ▸ List.mem_append_right _ member))
          within cut.incomplete carries (Nat.lt_succ_self chunk.length)
      have longer := cut.append again
      rw [← hands] at longer
      obtain ⟨last, lastTail, final, ran, whole, finalCarries⟩ := ih longer stillCarries ahead
      exact ⟨last, lastTail, final, run_cons_eq_some.mpr ⟨next, feeds ends, ran⟩, whole,
        finalCarries⟩

/-- From a state that carries nothing, every chunking of a part of the stream
hands on the blocks that are complete in it. -/
theorem run_handed (assembles : Assembles Block loop result Carries handed)
    (feeds : ∀ {chunk state next}, loop (chunk.length + 1) chunk state = some (result next) →
      feed chunk state = some next)
    (areBlocks : ∀ block ∈ blocks, Block block) (chunks : List (List α)) (state : σ)
    (nothing : handed state = []) (carries : Carries [] state)
    (ahead : chunks.flatten <+: blocks.flatten) :
    ∃ final, run feed chunks state = some final ∧
      handed final = wholeBlocks blocks chunks.flatten.length := by
  have start := Cut.start fun block member => assembles.nonempty (areBlocks block member)
  rw [← nothing] at start
  obtain ⟨_, _, final, ran, cut, _⟩ :=
    assembles.run_cut feeds areBlocks start carries (by simpa using ahead)
  rw [List.nil_append] at cut
  exact ⟨final, ran, cut.done_eq⟩

end Assembles

end Mmorpg.Transition
