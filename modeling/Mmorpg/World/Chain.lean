import Mmorpg.World.Vital
import Mmorpg.Transition.Timeline

/-!
# Single event chains

A passive monster has at most one event waiting, an aggressive one at most one
move and one attack.  What may wait depends on the two flags: a move waits only
for an active monster, and an attack that waits behind a clear attack flag runs
before the move that scheduled it.  A fallen monster may have old events left,
all of them before its respawn.
-/

namespace Mmorpg

open ZoneLayout Transition

/-- The two move events. -/
def TimerEventType.isMove : TimerEventType → Bool
  | evRandomMove | evAggroMove => true
  | _ => false

/-- The attack event. -/
def TimerEventType.isAttack (kind : TimerEventType) : Bool :=
  kind = .evMonsterAttackToUser

/-- At most one move and one attack wait. -/
structure SingleChain (line : List TimerEventType) : Prop where
  moves : line.countP TimerEventType.isMove ≤ 1
  attacks : line.countP TimerEventType.isAttack ≤ 1

/-- The lines in which the events of a monster may wait. -/
inductive Shape (mood : Mood) : List TimerEventType → Prop
  | idle : mood.dead = false → Shape mood []
  | stroll : mood.dead = false → mood.type = .passive → mood.active = true →
      Shape mood [.evRandomMove]
  | strike : mood.dead = false → mood.type = .passive → mood.active = true →
      Shape mood [.evMonsterAttackToUser]
  | chase : mood.dead = false → mood.type = .aggro → mood.active = true →
      Shape mood [.evAggroMove]
  | attack : mood.dead = false → mood.type = .aggro → mood.attack = true →
      Shape mood [.evMonsterAttackToUser]
  | engage : mood.dead = false → mood.type = .aggro → mood.active = true →
      Shape mood [.evMonsterAttackToUser, .evAggroMove]
  | press : mood.dead = false → mood.type = .aggro → mood.active = true → mood.attack = true →
      Shape mood [.evAggroMove, .evMonsterAttackToUser]
  | fallen (left : List TimerEventType) : mood.dead = true →
      (∀ kind ∈ left, kind.isAct = true) → SingleChain left →
      Shape mood (left ++ [.evMonsterRespawn])

namespace Shape

variable {mood : Mood} {line rest after : List TimerEventType}

theorem single (shape : Shape mood line) : SingleChain line := by
  cases shape with
  | fallen left dead acts single =>
    constructor
    · rw [List.countP_append]
      exact single.moves
    · rw [List.countP_append]
      exact single.attacks
  | _ => exact ⟨by decide, by decide⟩

/-- The shape of a living monster without a pending move. -/
inductive Bare (mood : Mood) : List TimerEventType → Prop
  | idle : Bare mood []
  | attack : mood.type = .aggro → mood.attack = true → Bare mood [.evMonsterAttackToUser]

/-- A living monster that rests has nothing pending. -/
theorem bare_of_resting (shape : Shape mood line) (alive : mood.dead = false)
    (resting : mood.active = false) : Bare mood line := by
  cases shape with
  | idle => exact .idle
  | attack _ aggro flag => exact .attack aggro flag
  | fallen left dead => exact absurd (alive.symm.trans dead) Bool.false_ne_true
  | stroll _ _ active => exact absurd (resting.symm.trans active) Bool.false_ne_true
  | strike _ _ active => exact absurd (resting.symm.trans active) Bool.false_ne_true
  | chase _ _ active => exact absurd (resting.symm.trans active) Bool.false_ne_true
  | engage _ _ active => exact absurd (resting.symm.trans active) Bool.false_ne_true
  | press _ _ active => exact absurd (resting.symm.trans active) Bool.false_ne_true

/-- A bare line, whatever the active flag becomes. -/
theorem Bare.shape {flags : Mood} (bare : Bare mood line) (alive : flags.dead = false)
    (type : flags.type = mood.type) (attack : mood.attack = true → flags.attack = true) :
    Shape flags line := by
  cases bare with
  | idle => exact .idle alive
  | attack aggro flag => exact .attack alive (type.trans aggro) (attack flag)

/-- A move that enters a bare line of an active aggressive monster. -/
theorem Bare.withMove {flags : Mood} (bare : Bare mood line) (alive : flags.dead = false)
    (type : flags.type = .aggro) (active : flags.active = true)
    (attack : mood.attack = true → flags.attack = true)
    (inserted : Inserted .evAggroMove line after) : Shape flags after := by
  cases bare with
  | idle =>
    rw [inserted_nil inserted]
    exact .chase alive type active
  | attack _ flag =>
    rcases inserted_singleton inserted with first | second
    · rw [first]
      exact .press alive type active (attack flag)
    · rw [second]
      exact .engage alive type active

/-! ## What others do to the monster -/

theorem wake (shape : Shape mood line) (alive : mood.dead = false) (resting : mood.active = false)
    (inserted : Inserted mood.type.moves line after) :
    Shape { mood with active := true } after := by
  have bare := shape.bare_of_resting alive resting
  cases type : mood.type with
  | aggro =>
    rw [type] at inserted
    exact bare.withMove alive rfl rfl id inserted
  | passive =>
    rw [type] at inserted
    cases bare with
    | idle =>
      rw [inserted_nil inserted]
      exact .stroll alive rfl rfl
    | attack aggro => exact absurd (type.symm.trans aggro) MonsterType.noConfusion

theorem wound (shape : Shape mood line) (hp : Nat) : Shape { mood with hp := hp } line := by
  cases shape with
  | idle alive => exact .idle alive
  | stroll alive passive active => exact .stroll alive passive active
  | strike alive passive active => exact .strike alive passive active
  | chase alive aggro active => exact .chase alive aggro active
  | attack alive aggro flag => exact .attack alive aggro flag
  | engage alive aggro active => exact .engage alive aggro active
  | press alive aggro active flag => exact .press alive aggro active flag
  | fallen left dead acts single => exact .fallen left dead acts single

/-- All that waits for a living monster are moves and attacks. -/
theorem acts (shape : Shape mood line) (alive : mood.dead = false) :
    ∀ kind ∈ line, kind.isAct = true := by
  cases shape with
  | fallen left dead => exact absurd (alive.symm.trans dead) Bool.false_ne_true
  | _ => decide

theorem slay (shape : Shape mood line) (alive : mood.dead = false) :
    Shape ⟨mood.type, 0, true, false, false⟩ (line ++ [.evMonsterRespawn]) :=
  .fallen line rfl (shape.acts alive) shape.single

/-! ## The head of the line -/

theorem respawn (shape : Shape mood (.evMonsterRespawn :: rest)) : rest = [] := by
  generalize whole : TimerEventType.evMonsterRespawn :: rest = line at shape
  cases shape with
  | fallen left dead acts single =>
    cases left with
    | nil => exact (List.cons.inj whole).2
    | cons head others =>
      have act := acts head List.mem_cons_self
      rw [← (List.cons.inj whole).1] at act
      contradiction
  | _ => simp at whole

/-- An old event of a fallen monster. -/
theorem spent {kind : TimerEventType} {flags : Mood} (shape : Shape mood (kind :: rest))
    (dead : mood.dead = true) (act : kind.isAct = true) (still : flags.dead = true) :
    Shape flags rest := by
  generalize whole : kind :: rest = line at shape
  cases shape with
  | fallen left _ acts single =>
    cases left with
    | nil =>
      rw [(List.cons.inj whole).1] at act
      contradiction
    | cons head others =>
      rw [(List.cons.inj whole).2]
      refine .fallen others still (fun kind member => acts kind (List.mem_cons_of_mem _ member)) ?_
      have moves := single.moves
      have attacks := single.attacks
      rw [List.countP_cons] at moves attacks
      exact ⟨by omega, by omega⟩
  | idle alive => exact absurd (alive.symm.trans dead) Bool.false_ne_true
  | stroll alive => exact absurd (alive.symm.trans dead) Bool.false_ne_true
  | strike alive => exact absurd (alive.symm.trans dead) Bool.false_ne_true
  | chase alive => exact absurd (alive.symm.trans dead) Bool.false_ne_true
  | attack alive => exact absurd (alive.symm.trans dead) Bool.false_ne_true
  | engage alive => exact absurd (alive.symm.trans dead) Bool.false_ne_true
  | press alive => exact absurd (alive.symm.trans dead) Bool.false_ne_true

/-- The move of a passive monster is all it has. -/
theorem randomMove (shape : Shape mood (.evRandomMove :: rest)) (alive : mood.dead = false) :
    rest = [] ∧ mood.type = .passive ∧ mood.active = true := by
  generalize whole : TimerEventType.evRandomMove :: rest = line at shape
  cases shape with
  | stroll _ passive active => exact ⟨(List.cons.inj whole).2, passive, active⟩
  | fallen left dead => exact absurd (alive.symm.trans dead) Bool.false_ne_true
  | _ => simp at whole

/-- Behind the move of an aggressive monster waits an attack at most. -/
theorem aggroMove (shape : Shape mood (.evAggroMove :: rest)) (alive : mood.dead = false) :
    Bare mood rest ∧ mood.type = .aggro ∧ mood.active = true := by
  generalize whole : TimerEventType.evAggroMove :: rest = line at shape
  cases shape with
  | chase _ aggro active =>
    rw [(List.cons.inj whole).2]
    exact ⟨.idle, aggro, active⟩
  | press _ aggro active flag =>
    rw [(List.cons.inj whole).2]
    exact ⟨.attack aggro flag, aggro, active⟩
  | fallen left dead => exact absurd (alive.symm.trans dead) Bool.false_ne_true
  | _ => simp at whole

/-- Behind an attack waits the move of an aggressive monster at most. -/
theorem attackToUser (shape : Shape mood (.evMonsterAttackToUser :: rest))
    (alive : mood.dead = false) :
    (rest = [] ∧ (mood.type = .passive → mood.active = true)) ∨
      (rest = [.evAggroMove] ∧ mood.type = .aggro ∧ mood.active = true) := by
  generalize whole : TimerEventType.evMonsterAttackToUser :: rest = line at shape
  cases shape with
  | strike _ passive active => exact .inl ⟨(List.cons.inj whole).2, fun _ => active⟩
  | attack _ aggro flag =>
    refine .inl ⟨(List.cons.inj whole).2, fun passive => ?_⟩
    rw [aggro] at passive
    contradiction
  | engage _ aggro active => exact .inr ⟨(List.cons.inj whole).2, aggro, active⟩
  | fallen left dead => exact absurd (alive.symm.trans dead) Bool.false_ne_true
  | _ => simp at whole

end Shape

end Mmorpg
