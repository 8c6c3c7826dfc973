import Mmorpg.World.Residence

/-!
# Requests in arrival order

Every queued task carries the number of frames that were received before it,
and a log tells which frames have passed their guards.  The frames of a session
form one line, part of which may wait on the thread of the zone the user has
left.
-/

namespace Mmorpg

open ZoneLayout Transition

variable {grid : CollisionGrid}

namespace World

/-- A request passes all its guards. -/
def accepts (choice : Choice grid) (session : Nat) (packet : ClientPacket) (world : World) : Bool :=
  match packet with
  | .userLoginReq _ _ => world.sessionState session = .stAlloc
  | .csChat _ => world.sessionState session = .stIngame ∧ (world.getOwner session).isSome
  | .userMoveReq direction =>
      (world.playing session true).any fun found =>
        direction ≤ 7 ∧ choice.now > found.2.lastMoveTime + 500
  | .userAttackReq _ =>
      (world.playing session true).any fun found => choice.now > found.2.lastAttackTime + 500
  | .userSkillReq =>
      (world.playing session true).any fun found => choice.now > found.2.lastSkillTime + 5000
  | .userTeleportReq x y => (world.playing session true).isSome ∧ isValidWorldPosition x y
  | .itemUseReq _ =>
      (world.playing session true).any fun found => choice.now > found.2.lastPotionUseTime + 5000
  | _ => (world.playing session false).isSome

variable {thread session : Nat} {choice : Choice grid} {packet : ClientPacket} {world after : World}

/-- A request that fails a guard does nothing. -/
theorem dispatch_rejected (rejected : world.accepts choice session packet = false) :
    world.dispatch thread choice session packet = some world := by
  unfold accepts at rejected
  cases packet with
  | userLoginReq name password =>
    exact if_pos (of_decide_eq_false rejected)
  | csChat mess =>
    rw [dispatch, chatRequest]
    split
    · rfl
    · next ingame =>
      rw [not_not] at ingame
      split
      · rfl
      · next owner found => exact absurd ⟨ingame, found ▸ rfl⟩ (of_decide_eq_false rejected)
  | userMoveReq direction =>
    rw [dispatch, moveRequest]
    split
    · rfl
    · next client user allowed =>
      dsimp only at rejected
      rw [allowed, Option.any_some] at rejected
      split
      · rfl
      · next known =>
        rw [if_neg]
        exact fun later => of_decide_eq_false rejected ⟨not_lt.mp known, later⟩
  | userAttackReq facing =>
    rw [dispatch, attackRequest]
    split
    · rfl
    · next client user allowed =>
      dsimp only at rejected
      rw [allowed, Option.any_some] at rejected
      rw [if_neg (of_decide_eq_false rejected)]
  | userSkillReq =>
    rw [dispatch, skillRequest]
    split
    · rfl
    · next client user allowed =>
      dsimp only at rejected
      rw [allowed, Option.any_some] at rejected
      rw [if_neg (of_decide_eq_false rejected)]
  | userTeleportReq x y =>
    rw [dispatch, teleportRequest]
    split
    · rfl
    · next client user allowed =>
      dsimp only at rejected
      rw [allowed] at rejected
      have outside : isValidWorldPosition x y = false := by
        rw [← Bool.not_eq_true]
        exact fun inside => of_decide_eq_false rejected ⟨rfl, inside⟩
      rw [outside]
      rfl
  | itemUseReq index =>
    rw [dispatch, useRequest]
    split
    · rfl
    · next client user allowed =>
      dsimp only at rejected
      rw [allowed, Option.any_some] at rejected
      rw [if_neg (of_decide_eq_false rejected)]
  | itemEquipReq index =>
    rw [dispatch, equipRequest, Option.isNone_iff_eq_none.mp (Option.isSome_eq_false_iff.mp rejected)]
  | itemUnequipReq index =>
    rw [dispatch, unequipRequest, Option.isNone_iff_eq_none.mp (Option.isSome_eq_false_iff.mp rejected)]
  | itemSwapReq indexA indexB =>
    rw [dispatch, swapRequest, Option.isNone_iff_eq_none.mp (Option.isSome_eq_false_iff.mp rejected)]
  | itemDiscardReq index count =>
    rw [dispatch, discardRequest, Option.isNone_iff_eq_none.mp (Option.isSome_eq_false_iff.mp rejected)]
  | itemPickupReq =>
    rw [dispatch, pickupRequest, Option.isNone_iff_eq_none.mp (Option.isSome_eq_false_iff.mp rejected)]

end World

/-! ## Numbered frames -/

/-- The arrival number of a queued frame of the session. -/
def numberOf (session : Nat) : Task × Nat → Option Nat
  | (.dispatch sender _, number) => if sender = session then some number else none
  | _ => none

/-- The frames of a session in a queue. -/
def framesOf (session : Nat) (queue : List (Task × Nat)) : List Nat :=
  queue.filterMap (numberOf session)

/-- The server with the number of frames received so far, the queued tasks with
their arrival numbers, and the accepted frames by session and number, in the
order of their handlers. -/
structure Numbered (collate : String → String) where
  server : Server collate
  arrivals : Nat
  queues : Nat → List (Task × Nat)
  accepted : List (Nat × Nat)

namespace Numbered

variable {collate : String → String}

/-- The frame that passes its guards in a step. -/
def passing (label : Server.Label grid) (numbered : Numbered collate) : Option (Nat × Nat) :=
  match label with
  | .run thread choice =>
      match numbered.queues thread with
      | (.dispatch session packet, number) :: _ =>
          if numbered.server.world.accepts choice session packet then some (session, number)
          else none
      | _ => none
  | _ => none

/-- The queues once a task may have joined them. -/
def joined (next : Option (Nat × Task)) (number : Nat) (queues : Nat → List (Task × Nat)) :
    Nat → List (Task × Nat) :=
  match next with
  | none => queues
  | some (zoneId, task) =>
      Function.update queues (World.threadOf zoneId)
        (queues (World.threadOf zoneId) ++ [(task, number)])

/-- How many frames arrive in a step. -/
def receives : Server.Label grid → Nat
  | .receive _ _ => 1
  | _ => 0

/-- The server's step, which also numbers the frames that arrive and logs those
accepted. -/
def step (label : Server.Label grid) (numbered : Numbered collate) : Option (Numbered collate) :=
  (Server.step label numbered.server).map fun server =>
    { server := server
      arrivals := numbered.arrivals + receives label
      queues := joined (numbered.server.puts label) numbered.arrivals (label.takes numbered.queues)
      accepted := numbered.accepted ++ (numbered.passing label).toList }

/-- The server at the start, before the first frame. -/
def boot (count : Nat) (draw : Nat → Int × Int) (store : Store collate) : Numbered collate where
  server := Server.boot count draw store
  arrivals := 0
  queues := fun _ => []
  accepted := []

/-- The accepted frames of a session. -/
def acceptedOf (session : Nat) (accepted : List (Nat × Nat)) : List Nat :=
  accepted.filterMap fun frame => if frame.1 = session then some frame.2 else none

/-- The handlers of the frames of a session ran in the order of arrival. -/
def InOrder (numbered : Numbered collate) : Prop :=
  ∀ session, (acceptedOf session numbered.accepted).Pairwise (· < ·)

/-! ## Frames in queues -/

variable {session number : Nat} {queue : List (Task × Nat)} {entry : Task × Nat}
  {queues : Nat → List (Task × Nat)} {next : Option (Nat × Task)}

/-- The frames of a queue, from its first task. -/
theorem framesOf_cons (session : Nat) (entry : Task × Nat) (queue : List (Task × Nat)) :
    framesOf session (entry :: queue) = (numberOf session entry).toList ++ framesOf session queue := by
  unfold framesOf
  cases found : numberOf session entry with
  | none => rw [List.filterMap_cons_none found]; rfl
  | some number => rw [List.filterMap_cons_some found]; rfl

/-- The frames of a queue, from its last task. -/
theorem framesOf_concat (session : Nat) (queue : List (Task × Nat)) (entry : Task × Nat) :
    framesOf session (queue ++ [entry]) =
      framesOf session queue ++ (numberOf session entry).toList := by
  have single : framesOf session [entry] = (numberOf session entry).toList := by
    rw [framesOf_cons]
    exact List.append_nil _
  rw [← single]
  exact List.filterMap_append

/-- No frame of the session is put into a queue. -/
def Skips (session number : Nat) (next : Option (Nat × Task)) : Prop :=
  ∀ zoneId task, next = some (zoneId, task) → numberOf session (task, number) = none

theorem framesOf_joined_of_skips (skips : Skips session number next) (thread : Nat) :
    framesOf session (joined next number queues thread) = framesOf session (queues thread) := by
  cases next with
  | none => rfl
  | some put =>
    rcases put with ⟨zoneId, task⟩
    rw [joined, Function.update_apply]
    split
    · next here => rw [framesOf_concat, skips zoneId task rfl, here]; exact List.append_nil _
    · rfl

theorem framesOf_joined_frame (session number zoneId : Nat) (packet : ClientPacket)
    (queues : Nat → List (Task × Nat)) (thread : Nat) :
    framesOf session (joined (some (zoneId, .dispatch session packet)) number queues thread) =
      framesOf session (queues thread) ++ if thread = World.threadOf zoneId then [number] else [] := by
  rw [joined, Function.update_apply]
  split
  · next here =>
    rw [framesOf_concat, numberOf, if_pos rfl, here]
    rfl
  · exact (List.append_nil _).symm

/-- Every frame of the session in the queue waits behind an entry of its
user. -/
def Behind (session : Nat) : List (Task × Nat) → Prop
  | [] => True
  | entry :: rest => entry.1.enters session = true ∨
      numberOf session entry = none ∧ Behind session rest

theorem behind_of_noFrames (none : framesOf session queue = []) : Behind session queue := by
  induction queue with
  | nil => trivial
  | cons entry rest ih =>
    rw [framesOf_cons, List.append_eq_nil_iff, Option.toList_eq_nil_iff] at none
    exact .inr ⟨none.1, ih none.2⟩

/-- A frame may join the queue once the entry is in it. -/
theorem Behind.concat (behind : Behind session queue)
    (fits : numberOf session entry = none ∨ ∃ earlier ∈ queue, earlier.1.enters session = true) :
    Behind session (queue ++ [entry]) := by
  induction queue with
  | nil =>
    rcases fits with other | ⟨earlier, member, _⟩
    · exact .inr ⟨other, trivial⟩
    · exact absurd member List.not_mem_nil
  | cons first rest ih =>
    rcases behind with enters | ⟨other, later⟩
    · exact .inl enters
    · by_cases enters : first.1.enters session = true
      · exact .inl enters
      · refine .inr ⟨other, ih later (fits.imp_right ?_)⟩
        rintro ⟨earlier, member, arrives⟩
        rcases List.mem_cons.mp member with rfl | inRest
        · exact absurd arrives enters
        · exact ⟨earlier, inRest, arrives⟩

/-! ## The line of a session -/

end Numbered

/-- The one thread on which the frames of a session wait. -/
def Station.home : Station → Option Nat
  | outside => some invalidZoneId
  | inside zoneId false => some (World.threadOf zoneId)
  | inside _ true => none
  | gone => none

namespace Numbered

variable {collate : String → String} {session number : Nat} {station : Station}
  {queues : Nat → List (Task × Nat)} {next : Option (Nat × Task)} {line : List Nat}

/-- All waiting frames of a session, the next one first.  Between two zones
those left in the old zone go first, as the others wait behind the entry. -/
inductive Line (session : Nat) (queues : Nat → List (Task × Nat)) : Station → List Nat → Prop
  | settled {station : Station} (home : Nat) : station.home = some home →
      (∀ thread, thread ≠ home → framesOf session (queues thread) = []) →
      Line session queues station (framesOf session (queues home))
  | between (old zoneId : Nat) : old ≠ World.threadOf zoneId →
      (∀ thread, thread ≠ old → thread ≠ World.threadOf zoneId →
        framesOf session (queues thread) = []) →
      Behind session (queues (World.threadOf zoneId)) →
      Line session queues (.inside zoneId true)
        (framesOf session (queues old) ++ framesOf session (queues (World.threadOf zoneId)))
  | gone : Line session queues .gone []

/-- What follows the arrival stays behind it. -/
theorem behind_joined {thread : Nat} (skips : Skips session number next)
    (behind : Behind session (queues thread)) :
    Behind session (joined next number queues thread) := by
  cases next with
  | none => exact behind
  | some put =>
    rcases put with ⟨zoneId, task⟩
    rw [joined, Function.update_apply]
    split
    · next here => exact (here ▸ behind).concat (.inl (skips zoneId task rfl))
    · exact behind

/-- Other tasks leave the line alone. -/
theorem Line.skips (waits : Line session queues station line)
    (skips : Skips session number next) :
    Line session (joined next number queues) station line := by
  have same : ∀ thread, framesOf session (joined next number queues thread) =
      framesOf session (queues thread) := framesOf_joined_of_skips skips
  cases waits with
  | settled home atHome elsewhere =>
    rw [← same home]
    exact .settled home atHome fun thread away => (same thread).trans (elsewhere thread away)
  | between old zoneId different elsewhere behind =>
    rw [← same old, ← same (World.threadOf zoneId)]
    exact .between old zoneId different
      (fun thread notOld notNew => (same thread).trans (elsewhere thread notOld notNew))
      (behind_joined skips behind)
  | gone => exact .gone

/-- A new frame goes to the end of the line. -/
theorem Line.frame {zoneId : Nat} {packet : ClientPacket} (waits : Line session queues station line)
    (home : ∀ thread, station.home = some thread → World.threadOf zoneId = thread)
    (between : ∀ new, station = .inside new true → zoneId = new ∧
      ∃ entry ∈ queues (World.threadOf new), entry.1.enters session = true)
    (present : station ≠ .gone) :
    Line session (joined (some (zoneId, .dispatch session packet)) number queues) station
      (line ++ [number]) := by
  cases waits with
  | settled thread atHome elsewhere =>
    have here : World.threadOf zoneId = thread := home thread atHome
    have longer : framesOf session (queues thread) ++ [number] = framesOf session
        (joined (some (zoneId, .dispatch session packet)) number queues thread) := by
      rw [framesOf_joined_frame, if_pos here.symm]
    rw [longer]
    refine .settled thread atHome fun other away => ?_
    rw [framesOf_joined_frame, if_neg (here ▸ away), elsewhere other away]
    rfl
  | between old new different elsewhere behind =>
    obtain ⟨rfl, entered⟩ := between new rfl
    have longer : framesOf session (queues old) ++
        framesOf session (queues (World.threadOf zoneId)) ++ [number] =
        framesOf session (joined (some (zoneId, .dispatch session packet)) number queues old) ++
          framesOf session (joined (some (zoneId, .dispatch session packet)) number queues
            (World.threadOf zoneId)) := by
      rw [framesOf_joined_frame, framesOf_joined_frame, if_neg different, if_pos rfl,
        List.append_nil, List.append_assoc]
    rw [longer]
    refine .between old zoneId different (fun thread notOld notNew => ?_) ?_
    · rw [framesOf_joined_frame, if_neg notNew, elsewhere thread notOld notNew]
      rfl
    · rw [joined, Function.update_self]
      exact behind.concat (.inr entered)
  | gone => exact absurd rfl present

section Pop

variable {thread : Nat} {entry : Task × Nat} {rest : List (Task × Nat)}

theorem framesOf_pop (queued : queues thread = entry :: rest) (other : Nat) :
    framesOf session (queues other) =
      (if other = thread then (numberOf session entry).toList else []) ++
        framesOf session (Function.update queues thread rest other) := by
  by_cases here : other = thread
  · rw [here, if_pos rfl, Function.update_self, queued, framesOf_cons]
  · rw [if_neg here, Function.update_of_ne here]
    rfl

/-- What is run leaves the line alone, unless it is a frame of the session or
the entry of its user. -/
theorem Line.drop (waits : Line session queues station line)
    (queued : queues thread = entry :: rest) (other : numberOf session entry = none)
    (noEntry : ∀ zoneId, station = .inside zoneId true → thread = World.threadOf zoneId →
      entry.1.enters session = false) :
    Line session (Function.update queues thread rest) station line := by
  have same : ∀ place, framesOf session (queues place) =
      framesOf session (Function.update queues thread rest place) := by
    intro place
    rw [framesOf_pop queued place, other]
    split
    · rfl
    · rfl
  cases waits with
  | settled home atHome elsewhere =>
    rw [same home]
    exact .settled home atHome fun place away => (same place).symm.trans (elsewhere place away)
  | between old zoneId different elsewhere behind =>
    rw [same old, same (World.threadOf zoneId)]
    refine .between old zoneId different
      (fun place notOld notNew => (same place).symm.trans (elsewhere place notOld notNew)) ?_
    by_cases here : thread = World.threadOf zoneId
    · subst here
      rw [queued] at behind
      rw [Function.update_self]
      rcases behind with enters | later
      · rw [noEntry zoneId rfl rfl] at enters
        contradiction
      · exact later.2
    · rw [Function.update_of_ne (Ne.symm here)]
      exact behind
  | gone => exact .gone

/-- A frame of the session that is run is the first of the line. -/
theorem Line.pop {sender : Nat} {packet : ClientPacket} (waits : Line sender queues station line)
    (queued : queues thread = (.dispatch sender packet, number) :: rest)
    (present : station ≠ .gone) :
    ∃ later, line = number :: later ∧
      Line sender (Function.update queues thread rest) station later := by
  have first : framesOf sender (queues thread) =
      number :: framesOf sender (Function.update queues thread rest thread) := by
    rw [framesOf_pop queued thread, if_pos rfl, numberOf, if_pos rfl]
    rfl
  have others : ∀ place, place ≠ thread → framesOf sender (queues place) =
      framesOf sender (Function.update queues thread rest place) := by
    intro place away
    rw [framesOf_pop queued place, if_neg away]
    rfl
  cases waits with
  | settled home atHome elsewhere =>
    obtain rfl : thread = home := by
      by_contra away
      rw [elsewhere thread away] at first
      contradiction
    refine ⟨_, first, .settled thread atHome fun place away => ?_⟩
    rw [← others place away]
    exact elsewhere place away
  | between old zoneId different elsewhere behind =>
    by_cases new : thread = World.threadOf zoneId
    · rw [← new, queued] at behind
      rcases behind with enters | later
      · contradiction
      · rw [numberOf, if_pos rfl] at later
        exact absurd later.1 (by simp)
    · obtain rfl : thread = old := by
        by_contra away
        rw [elsewhere thread away new] at first
        contradiction
      refine ⟨_, by rw [first, List.cons_append, others _ (Ne.symm new)], ?_⟩
      refine .between thread zoneId different (fun place notOld notNew => ?_) ?_
      · rw [← others place notOld]
        exact elsewhere place notOld notNew
      · rw [Function.update_of_ne (Ne.symm new)]
        exact behind
  | gone => exact absurd rfl present

end Pop

/-! ## Where the user goes -/

/-- When the user leaves its zone, its frames stay behind. -/
theorem Line.departs {old new : Nat} (waits : Line session queues (.inside old false) line)
    (valid : isValidZoneId new = true) (different : new ≠ old) :
    Line session queues (.inside new true) line := by
  cases waits with
  | settled home atHome elsewhere =>
    obtain rfl : World.threadOf old = home := Option.some.inj atHome
    have apart : World.threadOf old ≠ World.threadOf new := by
      rw [World.threadOf, World.threadOf, if_pos valid]
      split
      · exact different.symm
      · rintro rfl
        simp at valid
    have none := elsewhere _ apart.symm
    rw [← List.append_nil (framesOf session (queues (World.threadOf old))), ← none]
    exact .between _ new apart (fun thread notOld _ => elsewhere thread notOld)
      (behind_of_noFrames none)

/-- When it arrives, nothing of it may wait elsewhere. -/
theorem Line.arrives {thread : Nat} (waits : Line session queues (.inside thread true) line)
    (valid : isValidZoneId thread = true)
    (cleared : ∀ other, other ≠ thread → framesOf session (queues other) = []) :
    Line session queues (.inside thread false) line := by
  have home : World.threadOf thread = thread := if_pos valid
  cases waits with
  | settled place atHome => contradiction
  | between old zoneId different elsewhere behind =>
    rw [home] at different ⊢
    rw [cleared old different]
    exact .settled thread (congrArg some home) cleared

/-- With no frame on other threads, the user's thread has them all. -/
theorem Line.appears {thread zoneId : Nat} (waits : Line session queues .outside line)
    (valid : isValidZoneId thread = true)
    (cleared : ∀ other, other ≠ thread → framesOf session (queues other) = []) :
    Line session queues (.inside zoneId false) line := by
  cases waits with
  | settled home atHome elsewhere =>
    obtain rfl : invalidZoneId = home := Option.some.inj atHome
    have apart : invalidZoneId ≠ thread := by
      rintro rfl
      simp at valid
    have nowhere : ∀ other, framesOf session (queues other) = [] := by
      intro other
      by_cases here : other = invalidZoneId
      · rw [here]
        exact cleared _ apart
      · exact elsewhere other here
    rw [nowhere invalidZoneId, ← nowhere (World.threadOf zoneId)]
    exact .settled _ rfl fun other _ => nowhere other

end Numbered

end Mmorpg
