import LibPrint.Identify
import Mathlib.Data.List.Nodup
import Mathlib.Logic.Function.Basic
import Mathlib.Logic.Relation

/-!
# Runs of the tasks

The tasks of an identification and the gathering of their ends, as a system that takes one step
after the other. Tasks begin, end and are received in any order; a task sees when it begins whether
the deadline has passed, and the gathering stops when it has received every task, or at any time
after the deadline. What can have been received by then are exactly the schedules: no task twice,
and without a deadline every task and none of them late.
-/

namespace LibPrint.Identify

/-! ## The system -/

/-- How far a task has come. -/
inductive Stage where
  | waiting
  /-- The task has begun, and has seen whether it was too late. -/
  | running (late : Bool)
  | ended (result : TaskResult)
  /-- The gathering has received the end. -/
  | received (result : TaskResult)

/-- The clock, the tasks by their places, and what the gathering has received so far. -/
structure State where
  expired : Bool
  stage : Nat → Stage
  received : List TaskEnd

namespace State

/-- Nothing has happened. -/
def start : State :=
  ⟨false, fun _ => .waiting, []⟩

/-- A task moves on. -/
def move (state : State) (place : Nat) (stage : Stage) : State :=
  { state with stage := Function.update state.stage place stage }

/-- The end of a task is received. -/
def receive (state : State) (taskEnd : TaskEnd) : State :=
  { state.move taskEnd.place (.received taskEnd.result) with
    received := state.received ++ [taskEnd] }

@[simp] theorem stage_move_self (state : State) (place : Nat) (stage : Stage) :
    (state.move place stage).stage place = stage :=
  Function.update_self ..

@[simp] theorem stage_move_of_ne (state : State) {place other : Nat} (stage : Stage)
    (different : other ≠ place) : (state.move place stage).stage other = state.stage other :=
  Function.update_of_ne different ..

/-- What holds of all tasks holds after a move, if it holds of the one that moved on. -/
theorem forall_stage_move {state : State} (property : Nat → Stage → Prop) {place : Nat}
    {stage : Stage} (kept : ∀ other, property other (state.stage other))
    (moved : property place stage) : ∀ other, property other ((state.move place stage).stage other) :=
  (Function.forall_update_iff state.stage property).mpr ⟨moved, fun other _ => kept other⟩

@[simp] theorem stage_receive (state : State) (taskEnd : TaskEnd) :
    (state.receive taskEnd).stage =
      (state.move taskEnd.place (.received taskEnd.result)).stage :=
  rfl

@[simp] theorem received_receive (state : State) (taskEnd : TaskEnd) :
    (state.receive taskEnd).received = state.received ++ [taskEnd] :=
  rfl

end State

/-- The steps of a run over the given number of tasks, with or without a deadline. -/
inductive Step (timed : Bool) (count : Nat) : State → State → Prop where
  /-- The deadline passes. -/
  | expire {state : State} (limit : timed = true) :
      Step timed count state { state with expired := true }
  | begin {state : State} {place : Nat} (isTask : place < count)
      (waiting : state.stage place = .waiting) :
      Step timed count state (state.move place (.running state.expired))
  | finish {state : State} {place : Nat} {late : Bool}
      (running : state.stage place = .running late) :
      Step timed count state (state.move place (.ended (if late then .late else .compared)))
  | fail {state : State} {place : Nat} {late : Bool} (text : String)
      (running : state.stage place = .running late) :
      Step timed count state (state.move place (.ended (.failed text)))
  | receive {state : State} {taskEnd : TaskEnd}
      (ended : state.stage taskEnd.place = .ended taskEnd.result) :
      Step timed count state (state.receive taskEnd)

/-- A state that a run can lead to. -/
def Reaches (timed : Bool) (count : Nat) : State → State → Prop :=
  Relation.ReflTransGen (Step timed count)

/-- The gathering may stop: all tasks are received, or the deadline has passed. -/
def State.MayStop (count : Nat) (state : State) : Prop :=
  state.expired = true ∨ ∀ place < count, ∃ result, state.stage place = .received result

/-- A run in which the gathering has received these ends, in this order, when it stops. -/
def Gathers (timed : Bool) (count : Nat) (ends : List TaskEnd) : Prop :=
  ∃ state, Reaches timed count .start state ∧ state.MayStop count ∧ state.received = ends

/-- What the gathering can have received: no task twice, and without a deadline every task, none of
them late. -/
structure Schedule (timed : Bool) (count : Nat) (ends : List TaskEnd) : Prop where
  distinct : (ends.map (·.place)).Nodup
  isTask : ∀ taskEnd ∈ ends, taskEnd.place < count
  punctual : timed = false → ∀ taskEnd ∈ ends, taskEnd.result ≠ .late
  whole : timed = false → ∀ place < count, ∃ taskEnd ∈ ends, taskEnd.place = place

variable {timed : Bool} {count : Nat} {state next : State}

/-! ## What every step keeps -/

/-- The task has seen that it was too late. -/
def Stage.IsLate (stage : Stage) : Prop :=
  stage = .running true ∨ stage = .ended .late ∨ stage = .received .late

/-- What is known of a run at any time. -/
structure Sound (timed : Bool) (count : Nat) (state : State) : Prop where
  isTask : ∀ place, state.stage place ≠ .waiting → place < count
  distinct : (state.received.map (·.place)).Nodup
  received : ∀ taskEnd, taskEnd ∈ state.received ↔
    state.stage taskEnd.place = .received taskEnd.result
  early : timed = false → state.expired = false
  punctual : timed = false → ∀ place, ¬ (state.stage place).IsLate

theorem sound_start (timed : Bool) (count : Nat) : Sound timed count .start := by
  refine ⟨?_, List.nodup_nil, ?_, fun _ => rfl, ?_⟩
  · intro place begun
    exact absurd rfl begun
  · intro taskEnd
    constructor <;> intro impossible <;> cases impossible
  · rintro - place (late | late | late) <;> cases late

/-- A task that is not yet received moves on, and is not received by that. -/
theorem Sound.move (sound : Sound timed count state) {place : Nat} {stage : Stage}
    (isTask : place < count) (before : ∀ result, state.stage place ≠ .received result)
    (after : ∀ result, stage ≠ .received result) (punctual : timed = false → ¬ stage.IsLate) :
    Sound timed count (state.move place stage) := by
  refine ⟨?_, sound.distinct, ?_, sound.early, ?_⟩
  · exact State.forall_stage_move (fun other stage => stage ≠ .waiting → other < count)
      sound.isTask fun _ => isTask
  · intro taskEnd
    refine (sound.received taskEnd).trans ?_
    by_cases same : taskEnd.place = place
    · rw [same, State.stage_move_self]
      exact iff_of_false (before _) (after _)
    · rw [State.stage_move_of_ne _ _ same]
  · exact fun untimed => State.forall_stage_move (fun _ stage => ¬ stage.IsLate)
      (sound.punctual untimed) (punctual untimed)

/-- A task that runs comes to an end, which is late only if the task was. -/
theorem Sound.finish (sound : Sound timed count state) {place : Nat} {late : Bool}
    {result : TaskResult} (running : state.stage place = .running late)
    (regular : result = .late → late = true) :
    Sound timed count (state.move place (.ended result)) := by
  have begun : state.stage place ≠ .waiting := by
    rw [running]
    nofun
  apply sound.move (sound.isTask place begun)
  · intro result
    rw [running]
    nofun
  · nofun
  · rintro untimed (isLate | isLate | isLate)
    · cases isLate
    · apply sound.punctual untimed place
      rw [running, regular (Stage.ended.inj isLate)]
      exact .inl rfl
    · cases isLate

/-- The end of a task is received once. -/
theorem Sound.receive (sound : Sound timed count state) {taskEnd : TaskEnd}
    (ended : state.stage taskEnd.place = .ended taskEnd.result) :
    Sound timed count (state.receive taskEnd) := by
  -- No end of this task can have been received before.
  have fresh (other : TaskEnd) (member : other ∈ state.received) :
      other.place ≠ taskEnd.place := by
    intro same
    have before := (sound.received other).mp member
    rw [same, ended] at before
    cases before
  refine ⟨?_, ?_, ?_, sound.early, ?_⟩
  · refine State.forall_stage_move (fun place stage => stage ≠ .waiting → place < count)
      sound.isTask fun _ => sound.isTask _ ?_
    rw [ended]
    nofun
  · rw [State.received_receive, List.map_append, List.map_singleton]
    refine sound.distinct.append (List.nodup_singleton _) ?_
    intro place isReceived isPlace
    obtain ⟨other, member, rfl⟩ := List.mem_map.mp isReceived
    exact fresh other member (List.mem_singleton.mp isPlace)
  · intro other
    rw [State.received_receive, List.mem_append, List.mem_singleton, State.stage_receive]
    by_cases same : other.place = taskEnd.place
    · rw [same, State.stage_move_self]
      constructor
      · rintro (member | rfl)
        · exact absurd same (fresh other member)
        · rfl
      · intro now
        right
        cases other
        cases taskEnd
        cases same
        cases now
        rfl
    · rw [State.stage_move_of_ne _ _ same, ← sound.received other]
      constructor
      · rintro (member | rfl)
        · exact member
        · exact absurd rfl same
      · exact .inl
  · intro untimed
    refine State.forall_stage_move (fun _ stage => ¬ stage.IsLate) (sound.punctual untimed) ?_
    rintro (late | late | late)
    · cases late
    · cases late
    · apply sound.punctual untimed taskEnd.place
      rw [ended, Stage.received.inj late]
      exact .inr (.inl rfl)

/-- Every step keeps what is known of a run. -/
theorem Sound.step (sound : Sound timed count state) (step : Step timed count state next) :
    Sound timed count next := by
  cases step with
  | expire limit =>
      refine ⟨sound.isTask, sound.distinct, sound.received, ?_, sound.punctual⟩
      rintro rfl
      cases limit
  | begin isTask waiting =>
      apply sound.move isTask
      · intro result
        rw [waiting]
        nofun
      · nofun
      · intro untimed
        rw [sound.early untimed]
        rintro (late | late | late) <;> cases late
  | @finish place late running => exact sound.finish running (by cases late <;> simp)
  | fail text running => exact sound.finish running nofun
  | receive ended => exact sound.receive ended

theorem Sound.of_reaches (sound : Sound timed count state)
    (reaches : Reaches timed count state next) : Sound timed count next := by
  induction reaches with
  | refl => exact sound
  | tail _ step ih => exact ih.step step

/-- What was received when the gathering stopped is a schedule. -/
theorem schedule_of_gathers {ends : List TaskEnd} (gathers : Gathers timed count ends) :
    Schedule timed count ends := by
  obtain ⟨state, reaches, mayStop, rfl⟩ := gathers
  have sound := (sound_start timed count).of_reaches reaches
  refine ⟨sound.distinct, ?_, ?_, ?_⟩
  · intro taskEnd member
    apply sound.isTask
    rw [(sound.received taskEnd).mp member]
    nofun
  · intro untimed taskEnd member late
    apply sound.punctual untimed taskEnd.place
    rw [(sound.received taskEnd).mp member, late]
    exact .inr (.inr rfl)
  · intro untimed place isTask
    rcases mayStop with passed | all
    · rw [sound.early untimed] at passed
      cases passed
    · obtain ⟨result, received⟩ := all place isTask
      exact ⟨⟨place, result⟩, (sound.received _).mpr received, rfl⟩

/-! ## Every schedule comes about -/

variable (timed count state) in
/-- Tasks that wait begin, and see all what the clock shows now. -/
theorem exists_begun {ends : List TaskEnd} (distinct : (ends.map (·.place)).Nodup)
    (isTask : ∀ taskEnd ∈ ends, taskEnd.place < count)
    (waiting : ∀ taskEnd ∈ ends, state.stage taskEnd.place = .waiting) :
    ∃ next, Reaches timed count state next ∧ next.expired = state.expired ∧
      next.received = state.received ∧
      (∀ taskEnd ∈ ends, next.stage taskEnd.place = .running state.expired) ∧
      ∀ place ∉ ends.map (·.place), next.stage place = state.stage place := by
  induction ends generalizing state with
  | nil => exact ⟨state, .refl, rfl, rfl, nofun, fun _ _ => rfl⟩
  | cons first ends ih =>
      rw [List.map_cons, List.nodup_cons] at distinct
      obtain ⟨fresh, distinct⟩ := distinct
      have others : ∀ taskEnd ∈ ends, taskEnd.place ≠ first.place := by
        intro taskEnd member same
        exact fresh (same ▸ List.mem_map_of_mem member)
      obtain ⟨next, reaches, clock, received, running, alone⟩ :=
        ih (state.move first.place (.running state.expired)) distinct
          (fun taskEnd member => isTask taskEnd (List.mem_cons_of_mem _ member))
          (by
            intro taskEnd member
            rw [State.stage_move_of_ne _ _ (others taskEnd member)]
            exact waiting taskEnd (List.mem_cons_of_mem _ member))
      have begins : Step timed count state (state.move first.place (.running state.expired)) :=
        .begin (isTask first List.mem_cons_self) (waiting first List.mem_cons_self)
      refine ⟨next, reaches.head begins, clock, received, ?_, ?_⟩
      · intro taskEnd member
        rcases List.mem_cons.mp member with rfl | later
        · rw [alone _ fresh, State.stage_move_self]
        · exact running taskEnd later
      · intro place absent
        rw [List.map_cons, List.mem_cons, not_or] at absent
        rw [alone place absent.2, State.stage_move_of_ne _ _ absent.1]

/-- A task that runs may end in this way. -/
def MayEnd (late : Bool) (result : TaskResult) : Prop :=
  result = (if late then .late else .compared) ∨ ∃ text, result = .failed text

variable (timed count state) in
/-- Tasks that run end and are received, one after the other. -/
theorem exists_received {ends : List TaskEnd} (distinct : (ends.map (·.place)).Nodup)
    (running : ∀ taskEnd ∈ ends, ∃ late, state.stage taskEnd.place = .running late ∧
      MayEnd late taskEnd.result) :
    ∃ next, Reaches timed count state next ∧ next.expired = state.expired ∧
      next.received = state.received ++ ends := by
  induction ends generalizing state with
  | nil => exact ⟨state, .refl, rfl, by simp⟩
  | cons first ends ih =>
      rw [List.map_cons, List.nodup_cons] at distinct
      obtain ⟨fresh, distinct⟩ := distinct
      obtain ⟨late, runs, mayEnd⟩ := running first List.mem_cons_self
      let ended := state.move first.place (.ended first.result)
      have stops : Step timed count state ended := by
        rcases mayEnd with regular | ⟨text, failed⟩
        · simp only [ended, regular]
          exact .finish runs
        · simp only [ended, failed]
          exact .fail text runs
      have receives : Step timed count ended (ended.receive first) :=
        .receive (State.stage_move_self ..)
      obtain ⟨next, reaches, clock, received⟩ :=
        ih (ended.receive first) distinct (by
          intro taskEnd member
          have other : taskEnd.place ≠ first.place := by
            intro same
            exact fresh (same ▸ List.mem_map_of_mem member)
          rw [State.stage_receive, State.stage_move_of_ne _ _ other,
            State.stage_move_of_ne _ _ other]
          exact running taskEnd (List.mem_cons_of_mem _ member))
      refine ⟨next, (reaches.head receives).head stops, clock, ?_⟩
      rw [received, State.received_receive, List.append_assoc]
      rfl

/-- No other end of a schedule is that of the same task. -/
theorem place_not_mem_filter {ends : List TaskEnd} (distinct : (ends.map (·.place)).Nodup)
    {taskEnd : TaskEnd} (member : taskEnd ∈ ends) {test : TaskEnd → Bool}
    (fails : test taskEnd = false) : taskEnd.place ∉ (ends.filter test).map (·.place) := by
  intro again
  obtain ⟨other, otherMem, same⟩ := List.mem_map.mp again
  obtain ⟨otherMem, passes⟩ := List.mem_filter.mp otherMem
  rw [List.inj_on_of_nodup_map distinct otherMem member same, fails] at passes
  cases passes

/-- The deadline passes, if there is one. -/
theorem reaches_expired (early : state.expired = false) :
    Reaches timed count state { state with expired := timed } := by
  cases limit : timed with
  | true => exact .single (.expire rfl)
  | false =>
      rw [← early]
      exact .refl

/-- Every schedule comes about: first the tasks begin that are not late, then the deadline passes
and the late ones begin, and then all of them end in the order that is wanted. -/
theorem gathers_of_schedule {ends : List TaskEnd} (schedule : Schedule timed count ends) :
    Gathers timed count ends := by
  have distinct := schedule.distinct
  have distinctWhere (test : TaskEnd → Bool) : ((ends.filter test).map (·.place)).Nodup :=
    (List.filter_sublist.map _).nodup distinct
  have areTasks (test : TaskEnd → Bool) : ∀ taskEnd ∈ ends.filter test, taskEnd.place < count :=
    fun taskEnd member => schedule.isTask taskEnd (List.mem_of_mem_filter member)
  obtain ⟨begun, begins, clock, nothing, early, waiting⟩ :=
    exists_begun timed count .start (distinctWhere (·.result != .late)) (areTasks _)
      (fun _ _ => rfl)
  obtain ⟨all, follow, clock', nothing', late, kept⟩ :=
    exists_begun timed count { begun with expired := timed } (distinctWhere (·.result == .late))
      (areTasks _) (by
        intro taskEnd member
        obtain ⟨member, isLate⟩ := List.mem_filter.mp member
        exact waiting _ (place_not_mem_filter distinct member (by simpa using isLate)))
  have running : ∀ taskEnd ∈ ends, ∃ late, all.stage taskEnd.place = .running late ∧
      MayEnd late taskEnd.result := by
    intro taskEnd member
    by_cases isLate : taskEnd.result = .late
    · have limit : timed = true := by
        by_contra untimed
        exact schedule.punctual (Bool.eq_false_iff.mpr untimed) taskEnd member isLate
      refine ⟨true, ?_, .inl isLate⟩
      rw [late taskEnd (List.mem_filter.mpr ⟨member, by simpa using isLate⟩), limit]
    · refine ⟨false, ?_, ?_⟩
      · rw [kept _ (place_not_mem_filter distinct member (by simpa using isLate))]
        exact early taskEnd (List.mem_filter.mpr ⟨member, by simpa using isLate⟩)
      · cases result : taskEnd.result with
        | compared => exact .inl rfl
        | late => exact absurd result isLate
        | failed text => exact .inr ⟨text, rfl⟩
  obtain ⟨final, receives, clock'', received⟩ :=
    exists_received timed count all distinct running
  have reaches : Reaches timed count .start final :=
    ((begins.trans (reaches_expired clock)).trans follow).trans receives
  have ordered : final.received = ends := by
    rw [received, nothing']
    exact (congrArg (· ++ ends) nothing).trans (List.nil_append _)
  refine ⟨final, reaches, ?_, ordered⟩
  cases limit : timed with
  | true => exact .inl (clock''.trans (clock'.trans limit))
  | false =>
      right
      intro place isTask
      obtain ⟨taskEnd, member, rfl⟩ := schedule.whole limit place isTask
      rw [← ordered] at member
      exact ⟨_, (((sound_start timed count).of_reaches reaches).received taskEnd).mp member⟩

/-- The ends that a gathering can have received are exactly the schedules. -/
theorem gathers_iff_schedule {ends : List TaskEnd} :
    Gathers timed count ends ↔ Schedule timed count ends :=
  ⟨schedule_of_gathers, gathers_of_schedule⟩

end LibPrint.Identify
