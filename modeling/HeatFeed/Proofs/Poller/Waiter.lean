import HeatFeed.Proofs.Poller.History

/-!
# Waiting for a state

Whoever waits for a state looks at it, and looks again when they get to run and it has changed since
the last look. Everything that happens at one time happens in some order, looks included, and time
passes only once nobody has a change left to look at. Changes in a row are seen as one, and a result
that is refused changes nothing. All the same no state that stays until time passes is missed.
-/

namespace HeatFeed

namespace Poller

/-- The version never falls, and as long as it stays the same, so does the state. -/
structure Follows (p q : Poller) : Prop where
  version_le : p.version ≤ q.version
  state_eq : q.version = p.version → q.state = p.state

theorem follows_complete (p : Poller) (seq : Nat) (outcome : Outcome) :
    Follows p (p.complete seq outcome) := by
  by_cases mem : seq ∈ p.inFlight
  · rw [complete_of_mem mem]
    cases accepts : p.state.accepts seq with
    | true => exact ⟨Nat.le_succ _, fun same => absurd same (Nat.succ_ne_self _)⟩
    | false => exact ⟨Nat.le_refl _, fun _ => if_neg (ne_true_of_eq_false accepts)⟩
  · rw [complete_of_not_mem mem]
    exact ⟨Nat.le_refl _, fun _ => rfl⟩

theorem follows_act (p : Poller) (a : Action) : Follows p (p.act a) := by
  cases a with
  | tick | refetch =>
    rw [act, start]
    split
    · exact ⟨Nat.le_refl _, fun _ => rfl⟩
    · exact ⟨Nat.le_refl _, fun _ => rfl⟩
  | setInterval period =>
    rw [act, announce]
    split
    · exact ⟨Nat.le_refl _, fun _ => rfl⟩
    · exact ⟨Nat.le_refl _, fun _ => rfl⟩
  | complete seq outcome => exact follows_complete p seq outcome
  | shutdown => exact ⟨Nat.le_refl _, fun _ => rfl⟩

theorem follows_run (p : Poller) (actions : List Action) : Follows p (p.run actions) := by
  induction actions generalizing p with
  | nil => exact ⟨Nat.le_refl _, fun _ => rfl⟩
  | cons a rest ih =>
    have first := follows_act p a
    have later : Follows (p.act a) (p.run (a :: rest)) := ih _
    refine ⟨Nat.le_trans first.version_le later.version_le, fun same => ?_⟩
    have := first.version_le
    have := later.version_le
    rw [later.state_eq (by omega), first.state_eq (by omega)]

end Poller

/-- Somebody who waits for a state of a poller. -/
structure Waiter where
  now : Nat
  poller : Poller
  /-- The version of the state at the last look. -/
  seen : Nat
  /-- When the wait was over, and the state that was waited for, unless time was up. -/
  result : Option (Nat × Option FetchState)

namespace Waiter

/-- What may happen while somebody waits: the poller acts, the one who waits gets to run, time is
up, or time passes. -/
inductive Move where
  | act (a : Poller.Action)
  | run
  | expire
  | pass (time : Nat)

/-- What the poller does in the course of some moves. -/
def Move.action? : Move → Option Poller.Action
  | act a => some a
  | _ => none

/-- The state is the one at the last look, or nobody cares any more. -/
def IsAsleep (w : Waiter) : Prop := w.result.isSome = true ∨ w.seen = w.poller.version

/-- Time is up at the deadline. It passes only while the one who waits is asleep, and while the wait
is not over, not beyond the deadline. -/
def Allows (deadline : Nat) (w : Waiter) : Move → Prop
  | .act _ | .run => True
  | .expire => w.now = deadline
  | .pass time => w.now < time ∧ w.IsAsleep ∧ (w.result.isSome = true ∨ time ≤ deadline)

section

variable (condition : FetchState → Bool)

/-- Looks at the state as it is now. If it is what was waited for, the wait is over. -/
def look (w : Waiter) : Waiter :=
  { w with
    seen := w.poller.version
    result := w.result.or
      (if condition w.poller.state then some (w.now, some w.poller.state) else none) }

/-- A wait begins with a look. -/
def call (now : Nat) (p : Poller) : Waiter := look condition ⟨now, p, p.version, none⟩

/-- What one move does. -/
def step (w : Waiter) : Move → Waiter
  | .act a => { w with poller := w.poller.act a }
  | .run => if w.seen < w.poller.version then w.look condition else w
  | .expire => { w with result := w.result.or (some (w.now, none)) }
  | .pass time => { w with now := time }

/-- What some moves do. -/
def steps (w : Waiter) (moves : List Move) : Waiter := moves.foldl (step condition) w

/-- Each of some moves is allowed when it is made. -/
def Legal (deadline : Nat) : Waiter → List Move → Prop
  | _, [] => True
  | w, m :: rest => w.Allows deadline m ∧ Legal deadline (w.step condition m) rest

/-- In the course of some moves, a state is current at a time. -/
def IsCurrent (w : Waiter) (moves : List Move) (t : Nat) (s : FetchState) : Prop :=
  ∃ earlier, earlier <+: moves ∧ (w.steps condition earlier).now = t ∧
    (w.steps condition earlier).poller.state = s

/-- In the course of some moves, a state is the last one of a time: it stays until time passes. -/
def IsLast (w : Waiter) (moves : List Move) (t : Nat) (s : FetchState) : Prop :=
  ∃ earlier time, earlier ++ [.pass time] <+: moves ∧ (w.steps condition earlier).now = t ∧
    (w.steps condition earlier).poller.state = s

end

/-- The result is one that there may be by now. -/
structure Timely (condition : FetchState → Bool) (deadline : Nat) (w : Waiter) : Prop where
  open_le : w.result = none → w.now ≤ deadline
  over_le : ∀ t r, w.result = some (t, r) → t ≤ w.now
  in_time : ∀ t r, w.result = some (t, r) → t ≤ deadline
  met : ∀ t s, w.result = some (t, some s) → condition s = true
  expired : ∀ t, w.result = some (t, none) → t = deadline

/-- What holds all along: a state that has been looked at in vain is not what is waited for. -/
structure Sound (condition : FetchState → Bool) (deadline : Nat) (w : Waiter) : Prop
    extends Timely condition deadline w where
  seen_le : w.seen ≤ w.poller.version
  vain : w.result = none → w.seen = w.poller.version → condition w.poller.state = false

variable {condition : FetchState → Bool} {deadline : Nat} {w : Waiter}

/-! ### One move -/

/-- A result is the one from before or a new one. -/
theorem Timely.or (h : Timely condition deadline w) {new : Option (Nat × Option FetchState)}
    (met : ∀ t s, new = some (t, some s) → t = w.now ∧ condition s = true)
    (expired : ∀ t, new = some (t, none) → t = w.now ∧ t = deadline) :
    Timely condition deadline { w with result := w.result.or new } := by
  have now : ∀ t r, new = some (t, r) → t = w.now := fun t r result => by
    cases r with
    | none => exact (expired t result).1
    | some s => exact (met t s result).1
  refine ⟨fun none => h.open_le (Option.or_eq_none_iff.1 none).1, fun t r result => ?_,
    fun t r result => ?_, fun t s result => ?_, fun t result => ?_⟩
  · rcases Option.or_eq_some_iff.1 result with before | ⟨-, result⟩
    · exact h.over_le t r before
    · exact Nat.le_of_eq (now t r result)
  · rcases Option.or_eq_some_iff.1 result with before | ⟨pending, result⟩
    · exact h.in_time t r before
    · exact Nat.le_trans (Nat.le_of_eq (now t r result)) (h.open_le pending)
  · rcases Option.or_eq_some_iff.1 result with before | ⟨-, result⟩
    · exact h.met t s before
    · exact (met t s result).2
  · rcases Option.or_eq_some_iff.1 result with before | ⟨-, result⟩
    · exact h.expired t before
    · exact (expired t result).2

theorem Timely.look (h : Timely condition deadline w) :
    Sound condition deadline (w.look condition) where
  toTimely := by
    have timely : Timely condition deadline { w with seen := w.poller.version } := { h with }
    refine timely.or (fun t s new => ?_) fun t new => ?_
    · obtain ⟨met, same⟩ := Option.ite_none_right_eq_some.1 new
      cases same
      exact ⟨rfl, met⟩
    · obtain ⟨-, same⟩ := Option.ite_none_right_eq_some.1 new
      cases same
  seen_le := Nat.le_refl _
  vain none _ := by
    refine eq_false_of_ne_true fun met => ?_
    have unmet := (Option.or_eq_none_iff.1 none).2
    exact absurd ((if_pos met).symm.trans unmet) nofun

theorem Sound.expire (h : Sound condition deadline w) (up : w.now = deadline) :
    Sound condition deadline (w.step condition .expire) where
  toTimely := by
    refine h.or (fun t s new => ?_) fun t new => ?_
    · cases new
    · cases new
      exact ⟨rfl, up⟩
  seen_le := h.seen_le
  vain none := absurd (Option.or_eq_none_iff.1 none).2 nofun

/-- The poller may do anything: whoever has looked at its state in vain has not missed a change as
long as the version stays the same. -/
theorem Sound.act (h : Sound condition deadline w) (a : Poller.Action) :
    Sound condition deadline (w.step condition (.act a)) := by
  have follows := Poller.follows_act w.poller a
  refine { h with
    seen_le := Nat.le_trans h.seen_le follows.version_le
    vain := fun none seen => ?_ }
  have seen : w.seen = (w.poller.act a).version := seen
  have same : (w.poller.act a).version = w.poller.version :=
    Nat.le_antisymm (seen ▸ h.seen_le) follows.version_le
  show condition (w.poller.act a).state = false
  rw [follows.state_eq same]
  exact h.vain none (seen.trans same)

theorem Sound.pass (h : Sound condition deadline w) {time : Nat}
    (allowed : w.Allows deadline (.pass time)) :
    Sound condition deadline (w.step condition (.pass time)) where
  seen_le := h.seen_le
  vain := h.vain
  open_le none := by
    rcases allowed.2.2 with ended | le
    · rw [Option.isSome_iff_ne_none] at ended
      exact absurd none ended
    · exact le
  over_le t r result := Nat.le_trans (h.over_le t r result) (Nat.le_of_lt allowed.1)
  in_time := h.in_time
  met := h.met
  expired := h.expired

theorem Sound.step (h : Sound condition deadline w) {m : Move} (allowed : w.Allows deadline m) :
    Sound condition deadline (w.step condition m) := by
  cases m with
  | act a => exact h.act a
  | run =>
    rw [Waiter.step]
    split
    · exact h.toTimely.look
    · exact h
  | expire => exact h.expire allowed
  | pass time => exact h.pass allowed

theorem sound_call (condition : FetchState → Bool) (p : Poller) {now : Nat} (le : now ≤ deadline) :
    Sound condition deadline (call condition now p) :=
  Timely.look ⟨fun _ => le, nofun, nofun, nofun, nofun⟩

/-- Once the wait is over, its result stays. -/
theorem result_step {r : Nat × Option FetchState} (h : w.result = some r) (m : Move) :
    (w.step condition m).result = some r := by
  cases m with
  | act a => exact h
  | run =>
    rw [step]
    split
    · rw [look, h]; rfl
    · exact h
  | expire => rw [step, h]; rfl
  | pass time => exact h

theorem poller_step (w : Waiter) (m : Move) :
    (w.step condition m).poller = w.poller.run m.action?.toList := by
  cases m with
  | act a => rfl
  | run =>
    rw [step]
    split
    · rfl
    · rfl
  | expire => rfl
  | pass time => rfl

/-- What ends a wait with a state is a look at it. -/
theorem current_of_step {m : Move} {t : Nat} {s : FetchState} (before : w.result = none)
    (after : (w.step condition m).result = some (t, some s)) :
    w.now = t ∧ w.poller.state = s := by
  cases m with
  | act a => exact absurd (before.symm.trans after) nofun
  | run =>
    rw [step] at after
    split at after
    · rw [look, before, Option.none_or] at after
      obtain ⟨-, same⟩ := Option.ite_none_right_eq_some.1 after
      cases same
      exact ⟨rfl, rfl⟩
    · exact absurd (before.symm.trans after) nofun
  | expire =>
    rw [step, before] at after
    cases after
  | pass time => exact absurd (before.symm.trans after) nofun

/-! ### Runs -/

theorem steps_cons (w : Waiter) (m : Move) (rest : List Move) :
    w.steps condition (m :: rest) = (w.step condition m).steps condition rest := rfl

theorem steps_append (w : Waiter) (xs ys : List Move) :
    w.steps condition (xs ++ ys) = (w.steps condition xs).steps condition ys :=
  List.foldl_append

theorem legal_append {xs ys : List Move} : Legal condition deadline w (xs ++ ys) ↔
    Legal condition deadline w xs ∧ Legal condition deadline (w.steps condition xs) ys := by
  induction xs generalizing w with
  | nil => simp [Legal, steps]
  | cons m xs ih =>
    rw [List.cons_append, Legal, Legal, ih, and_assoc]
    rfl

theorem Sound.steps (h : Sound condition deadline w) {moves : List Move}
    (legal : Legal condition deadline w moves) :
    Sound condition deadline (w.steps condition moves) := by
  induction moves generalizing w with
  | nil => exact h
  | cons m rest ih => exact ih (h.step legal.1) legal.2

theorem result_steps {r : Nat × Option FetchState} (h : w.result = some r) (moves : List Move) :
    (w.steps condition moves).result = some r := by
  induction moves generalizing w with
  | nil => exact h
  | cons m rest ih => exact ih (result_step h m)

/-- Waiting does nothing to the poller. -/
theorem poller_steps (w : Waiter) (moves : List Move) :
    (w.steps condition moves).poller = w.poller.run (moves.filterMap Move.action?) := by
  induction moves generalizing w with
  | nil => rfl
  | cons m rest ih =>
    have first : (w.steps condition (m :: rest)).poller =
        (w.step condition m).poller.run (rest.filterMap Move.action?) := ih _
    rw [first, poller_step]
    cases m with
    | act a => rfl
    | run => rfl
    | expire => rfl
    | pass time => rfl

theorem steps_acts (w : Waiter) (actions : List Poller.Action) :
    w.steps condition (actions.map .act) = { w with poller := w.poller.run actions } := by
  rw [steps, List.foldl_map]
  induction actions generalizing w with
  | nil => rfl
  | cons a rest ih => exact ih _

theorem legal_acts (w : Waiter) (actions : List Poller.Action) :
    Legal condition deadline w (actions.map .act) := by
  induction actions generalizing w with
  | nil => trivial
  | cons a rest ih => exact ⟨trivial, ih _⟩

/-! ### Waits from their beginning -/

section

variable {p : Poller} {now t : Nat} {s : FetchState} {moves : List Move}

theorem call_of_met (h : condition p.state = true) :
    call condition now p = ⟨now, p, p.version, some (now, some p.state)⟩ := by
  rw [call, look, if_pos h]
  rfl

theorem call_of_unmet (h : condition p.state = false) :
    call condition now p = ⟨now, p, p.version, none⟩ := by
  rw [call, look, if_neg (ne_true_of_eq_false h)]
  rfl

/-- Whoever has looked in vain and is woken later is where a wait would be that begins then: nothing
of what has happened in between matters but the state that it has left. -/
theorem steps_woken (h : condition p.state = false) (actions : List Poller.Action) :
    (call condition now p).steps condition (.pass t :: actions.map .act ++ [.run]) =
      call condition t (p.run actions) := by
  have follows := Poller.follows_run p actions
  rw [List.cons_append, steps_cons, steps_append, steps_acts, call_of_unmet h]
  show step condition ⟨t, p.run actions, p.version, none⟩ .run = _
  rw [step]
  split
  · rfl
  · rename_i same
    have same : (p.run actions).version = p.version :=
      Nat.le_antisymm (Nat.not_lt.1 same) follows.version_le
    rw [call_of_unmet (follows.state_eq same ▸ h), same]

/-- Whoever has looked in vain when time is up has waited in vain, whatever else happens then. -/
theorem steps_expired (h : condition p.state = false) (actions : List Poller.Action) :
    (call condition now p).steps condition (.expire :: actions.map .act) =
      ⟨now, p.run actions, p.version, some (now, none)⟩ := by
  rw [steps_cons, steps_acts, call_of_unmet h]
  rfl

/-- A state that ends a wait was current when it did. -/
theorem isCurrent_of_met
    (ended : ((call condition now p).steps condition moves).result = some (t, some s)) :
    (call condition now p).IsCurrent condition moves t s := by
  induction moves using List.reverseRecOn with
  | nil =>
    refine ⟨[], List.prefix_refl _, ?_⟩
    cases met : condition p.state with
    | false =>
      rw [call_of_unmet met] at ended
      cases ended
    | true =>
      rw [call_of_met met] at ended ⊢
      cases ended
      exact ⟨rfl, rfl⟩
  | append_singleton moves m ih =>
    rw [steps_append] at ended
    cases before : ((call condition now p).steps condition moves).result with
    | none => exact ⟨moves, List.prefix_append .., current_of_step before ended⟩
    | some r =>
      have same : r = (t, some s) := Option.some.inj ((result_step before m).symm.trans ended)
      obtain ⟨earlier, part, current⟩ := ih (before.trans (congrArg some same))
      exact ⟨earlier, part.trans (List.prefix_append ..), current⟩

/-- A state that is there when time passes has been looked at. -/
theorem Sound.met_of_pass (h : Sound condition deadline w) {time : Nat}
    (allowed : w.Allows deadline (.pass time)) (early : w.now < deadline)
    (met : condition w.poller.state = true) :
    ∃ t s, w.result = some (t, some s) ∧ t ≤ w.now := by
  cases result : w.result with
  | none =>
    have seen : w.seen = w.poller.version :=
      allowed.2.1.resolve_left (by rw [result]; exact Bool.false_ne_true)
    rw [h.vain result seen] at met
    cases met
  | some r =>
    obtain ⟨t, s | s⟩ := r
    · have := h.expired t result
      have := h.over_le t none result
      omega
    · exact ⟨t, s, rfl, h.over_le t _ result⟩

/-- Without a state that is waited for, the wait is over at the deadline. -/
theorem Sound.expired_of_late (h : Sound condition deadline w) (late : deadline < w.now)
    (unmet : ∀ t s, w.result ≠ some (t, some s)) : w.result = some (deadline, none) := by
  cases result : w.result with
  | none => exact absurd (h.open_le result) (Nat.not_le_of_lt late)
  | some r =>
    obtain ⟨t, s | s⟩ := r
    · rw [h.expired t result]
    · exact absurd result (unmet t s)

end

end Waiter

end HeatFeed
