import EmbeddedSql.Proofs.Server.Runs
import Mathlib.Data.List.Perm.Basic

/-!
# Debouncing — which jobs start, and when they are over

What a debouncer does over a whole run is read off the calls alone.  A job that is scheduled starts
when its delay has passed, unless a call comes first that puts another job in its place or takes it
back; once started it is over when its time has passed, whatever is called.

* `Debouncer.run` — calls one after the other, and all events;
* `Call.revokes`, `Debouncer.lull` — what ends the wait of a job, and how far the clock gets before;
* `Debouncer.course` — the events of one job, `Debouncer.expected` — those of all jobs;
* `Debouncer.Latest` — the latest job of a document, unless it was taken back;
* `Debouncer.outlook` — the events that a state still owes;
* `Debouncer.settle_outlook`, `Debouncer.apply_outlook` — what is owed is paid, and only calls add
  to it;
* `Debouncer.run_lawful` — so the events of a run are those of its jobs, and what waits or is
  pending after it is what the calls say.
-/

namespace EmbeddedSql
namespace Server
namespace Debouncer

/-! ## What the calls say -/

def run (d : Debouncer) : List Call → Debouncer × List Event
  | [] => (d, [])
  | c :: rest => (((d.step c).1.run rest).1, (d.step c).2 ++ ((d.step c).1.run rest).2)

namespace Call

def elapsed : Call → Nat
  | .wait ms => ms
  | _ => 0

/-- Whether a call ends the wait of an earlier job of a document. -/
def revokes (uri : Uri) : Call → Bool
  | .schedule u _ _ => u = uri
  | .cancel u => u = uri
  | .cancelAll => true
  | .wait _ => false

/-- The name of the job that a call schedules. -/
def jobName? : Call → Option String
  | .schedule _ _ job => some job.name
  | _ => none

end Call

def elapsed : List Call → Nat
  | [] => 0
  | c :: rest => c.elapsed + elapsed rest

/-- How far calls move the clock before the first that ends the wait of a job. -/
def lull (uri : Uri) (calls : List Call) : Nat :=
  elapsed (calls.takeWhile fun c => !c.revokes uri)

/-- The events of a job that waits, at time `now`, until `due`: it starts if the clock gets there
before its wait is ended, and is then over as soon as the clock gets to its end. -/
def course (now : Nat) (uri : Uri) (due : Nat) (job : Job) (calls : List Call) : List Event :=
  if due ≤ now + lull uri calls then
    ⟨due, job.name, .start⟩ ::
      (if due + job.takes ≤ now + elapsed calls then [⟨due + job.takes, job.name, .finish⟩] else [])
  else []

/-- The events of the job that a call schedules, given the calls behind it. -/
def Call.course (now : Nat) (c : Call) (calls : List Call) : List Event :=
  match c with
  | .schedule uri delay job => Debouncer.course now uri (now + delay) job calls
  | _ => []

/-- The events of all jobs that calls schedule from a time on. -/
def expected (now : Nat) : List Call → List Event
  | [] => []
  | c :: rest => c.course now rest ++ expected (now + c.elapsed) rest

/-- The job that was last scheduled for a document has this due time, and no call took it back. -/
def Latest (calls : List Call) (uri : Uri) (due : Nat) (job : Job) : Prop :=
  ∃ before delay after, calls = before ++ .schedule uri delay job :: after ∧
    (∀ c ∈ after, c.revokes uri = false) ∧ due = elapsed before + delay

/-- The job of a slot, if it has not started. -/
def waiting? : Slot → Option Job
  | .waiting _ job => some job
  | .started _ => none

/-- The jobs that wait for a document. -/
def waitingFor (d : Debouncer) (uri : Uri) : List Job :=
  d.slots.filterMap fun e => if e.1 = uri then waiting? e.2 else none

/-! ## Clock and lull -/

@[simp] theorem elapsed_nil : elapsed [] = 0 := rfl

@[simp] theorem elapsed_cons (c : Call) (calls : List Call) :
    elapsed (c :: calls) = c.elapsed + elapsed calls := by
  rw [elapsed]

@[simp] theorem elapsed_append (before after : List Call) :
    elapsed (before ++ after) = elapsed before + elapsed after := by
  induction before with
  | nil => simp
  | cons c rest ih => simp [ih, Nat.add_assoc]

@[simp] theorem lull_nil (uri : Uri) : lull uri [] = 0 := rfl

theorem lull_cons_of_revokes {uri : Uri} {c : Call} (h : c.revokes uri = true)
    (calls : List Call) : lull uri (c :: calls) = 0 := by
  simp [lull, h]

theorem lull_cons {uri : Uri} {c : Call} (h : c.revokes uri = false) (calls : List Call) :
    lull uri (c :: calls) = c.elapsed + lull uri calls := by
  simp [lull, h]

/-! ## What a state owes -/

/-- The events that the latest job of a document still leads to. -/
def owed (now : Nat) (uri : Uri) (calls : List Call) : Slot → List Event
  | .waiting due job => course now uri due job calls
  | .started _ => []

/-- A job that is not due stands no call that ends its wait, and no other call makes a
difference. -/
theorem owed_cons {now : Nat} {uri : Uri} {slot : Slot} (c : Call) (calls : List Call)
    (hwaits : ∀ due job, slot = .waiting due job → now < due) :
    owed now uri (c :: calls) slot =
      if c.revokes uri then [] else owed (now + c.elapsed) uri calls slot := by
  cases slot with
  | started finish => simp [owed]
  | waiting due job =>
      have hdue : now < due := hwaits due job rfl
      cases hc : c.revokes uri with
      | true =>
          -- The wait ends before the clock moves on, and the job was not due by then.
          have hlull := lull_cons_of_revokes hc calls
          simp [owed, course, hlull]
          omega
      | false =>
          have hlull := lull_cons hc calls
          simp [owed, course, hlull, Nat.add_assoc]

/-- The end of a run that is not over yet, if calls get that far. -/
def laterEnd (now : Nat) (calls : List Call) (r : Run) : List Event :=
  if now < r.finish then (finishEvent? (now + elapsed calls) r).toList else []

theorem flatMap_laterEnd (now : Nat) (calls : List Call) (runs : List Run) :
    runs.flatMap (laterEnd now calls) =
      (runs.filter fun r => now < r.finish).filterMap (finishEvent? (now + elapsed calls)) := by
  rw [List.filterMap_filter, List.filterMap_eq_flatMap_toList]
  congr 1
  funext r
  by_cases hlater : now < r.finish <;> simp [laterEnd, hlater]

/-- A job that is due starts, and leaves its end to the runs. -/
theorem owed_eq (now : Nat) (uri : Uri) (calls : List Call) (slot : Slot) :
    owed now uri calls slot =
      ((slot.due? now).toList.flatMap fun r => startEvents now r ++ laterEnd now calls r) ++
        owed now uri calls (slot.advance now) := by
  cases slot with
  | started finish => rfl
  | waiting due job =>
      by_cases hdue : due ≤ now
      · have hreached : due ≤ now + lull uri calls := by omega
        simp only [Slot.advance, Slot.due?, if_pos hdue, owed, course, if_pos hreached]
        simp only [startEvents, laterEnd, finishEvent?, Option.toList_some, List.flatMap_cons,
          List.flatMap_nil, List.append_nil, List.cons_append, Nat.add_sub_cancel]
        -- The end of the job is past, or ahead within the calls, or behind them.
        by_cases hover : due + job.takes ≤ now
        · have hlater : due + job.takes ≤ now + elapsed calls := by omega
          simp [hover, hlater]
        · have hlater : now < due + job.takes := by omega
          by_cases hend : due + job.takes ≤ now + elapsed calls
          · simp [hover, hlater, hend]
          · simp [hover, hlater, hend]
      · simp [Slot.advance, Slot.due?, hdue]

/-- All events that a state still leads to. -/
def outlook (d : Debouncer) (calls : List Call) : List Event :=
  d.slots.flatMap (fun (uri, slot) => owed d.now uri calls slot) ++
    d.running.filterMap (finishEvent? (d.now + elapsed calls))

/-- Nothing is due, and every document has one latest job. -/
structure Settled (d : Debouncer) : Prop where
  distinct : Assoc.Distinct d.slots
  waits : ∀ uri due job, (uri, Slot.waiting due job) ∈ d.slots → d.now < due
  runs : ∀ r ∈ d.running, d.now < r.finish

theorem settled_empty : Settled empty :=
  ⟨List.nodup_nil, fun _ _ _ h => (List.not_mem_nil h).elim, fun _ h => (List.not_mem_nil h).elim⟩

/-! ### Passing of time -/

/-- The slots owe what the jobs that are due lead to, and what the slots after them owe. -/
theorem slots_outlook (now : Nat) (calls : List Call) (slots : List (Uri × Slot)) :
    (slots.flatMap fun (uri, slot) => owed now uri calls slot).Perm
      ((slots.filterMap fun (_, slot) => slot.due? now).flatMap (startEvents now) ++
        (slots.filterMap fun (_, slot) => slot.due? now).flatMap (laterEnd now calls) ++
        (slots.map fun (uri, slot) => (uri, slot.advance now)).flatMap
          fun (uri, slot) => owed now uri calls slot) := by
  have hdue : (slots.flatMap fun (_, slot) =>
      (slot.due? now).toList.flatMap fun r => startEvents now r ++ laterEnd now calls r) =
        (slots.filterMap fun (_, slot) => slot.due? now).flatMap fun r =>
          startEvents now r ++ laterEnd now calls r := by
    rw [List.filterMap_eq_flatMap_toList, List.flatMap_assoc]
  have hslots : (slots.flatMap fun (uri, slot) => owed now uri calls slot) =
      slots.flatMap fun (uri, slot) =>
        ((slot.due? now).toList.flatMap fun r => startEvents now r ++ laterEnd now calls r) ++
          owed now uri calls (slot.advance now) := by
    congr 1
    funext ⟨uri, slot⟩
    exact owed_eq now uri calls slot
  rw [hslots, List.flatMap_map]
  refine (List.flatMap_append_perm slots _ _).symm.trans ?_
  rw [hdue]
  exact (List.flatMap_append_perm _ _ _).symm.append_right _

/-- The ends of runs are past or still to come. -/
theorem runs_outlook (now : Nat) (calls : List Call) (runs : List Run) :
    (runs.filterMap (finishEvent? (now + elapsed calls))).Perm
      (runs.filterMap (finishEvent? now) ++ runs.flatMap (laterEnd now calls)) := by
  have hrun : ∀ r, (finishEvent? (now + elapsed calls) r).toList =
      (finishEvent? now r).toList ++ laterEnd now calls r := by
    intro r
    by_cases hover : r.finish ≤ now
    · have hlater : r.finish ≤ now + elapsed calls := by omega
      simp [finishEvent?, laterEnd, hover, hlater, Nat.not_lt.2 hover]
    · simp [finishEvent?, laterEnd, hover, Nat.lt_of_not_le hover]
  simp only [List.filterMap_eq_flatMap_toList, hrun]
  exact (List.flatMap_append_perm _ _ _).symm

/-- What is due is paid, and the rest is still owed. -/
theorem settle_outlook (d : Debouncer) (calls : List Call) :
    (d.settle.2 ++ d.settle.1.outlook calls).Perm (d.outlook calls) := by
  have hpaid : d.settle.2.Perm
      (d.due.flatMap (startEvents d.now) ++ d.running.filterMap (finishEvent? d.now)) :=
    List.mergeSort_perm _ _
  have hrest : d.settle.1.outlook calls =
      ((d.slots.map fun (uri, slot) => (uri, slot.advance d.now)).flatMap fun (uri, slot) =>
        owed d.now uri calls slot) ++ (d.running ++ d.due).flatMap (laterEnd d.now calls) := by
    rw [flatMap_laterEnd]
    rfl
  have hslots := slots_outlook d.now calls d.slots
  have hruns := runs_outlook d.now calls d.running
  rw [hrest, List.flatMap_append, outlook]
  refine List.perm_iff_count.2 ?_
  intro e
  have hpaid := hpaid.count_eq e
  have hslots := hslots.count_eq e
  have hruns := hruns.count_eq e
  simp only [due, List.count_append] at *
  omega

theorem settle_settled {d : Debouncer} (h : Assoc.Distinct d.slots) : Settled d.settle.1 := by
  refine ⟨?_, ?_, ?_⟩
  · have hkeys : d.settle.1.slots.map (·.1) = d.slots.map (·.1) := by
      simp [settle]
    simpa only [Assoc.Distinct, hkeys] using h
  · intro uri due job hmem
    rcases List.mem_map.1 hmem with ⟨⟨u, slot⟩, -, heq⟩
    exact Slot.lt_of_advance (Prod.mk.inj heq).2
  · intro r hr
    exact of_decide_eq_true (List.mem_filter.1 hr).2

/-- Nothing is due, so nothing happens. -/
theorem Settled.settle_eq {d : Debouncer} (h : d.Settled) : d.settle = (d, []) := by
  rcases d with ⟨now, slots, running⟩
  have hdue : ∀ uri slot, (uri, slot) ∈ slots → slot.due? now = none := by
    intro uri slot hmem
    cases slot with
    | waiting due job => exact if_neg (Nat.not_le.2 (h.waits uri due job hmem))
    | started finish => rfl
  have hnone : (slots.filterMap fun (_, slot) => slot.due? now) = [] := by
    refine List.filterMap_eq_nil_iff.2 ?_
    rintro ⟨uri, slot⟩ hmem
    exact hdue uri slot hmem
  have hslots : (slots.map fun (uri, slot) => (uri, slot.advance now)) = slots := by
    have hsame : ∀ p ∈ slots, (p.1, p.2.advance now) = p := by
      rintro ⟨uri, slot⟩ hmem
      simp only [Slot.advance, hdue uri slot hmem]
    exact (List.map_congr_left hsame).trans (List.map_id slots)
  have hruns : running.filterMap (finishEvent? now) = [] := by
    refine List.filterMap_eq_nil_iff.2 ?_
    intro r hr
    exact if_neg (Nat.not_le.2 (h.runs r hr))
  have hrunning : (running.filter fun r => now < r.finish) = running := by
    refine List.filter_eq_self.2 ?_
    intro r hr
    exact decide_eq_true (h.runs r hr)
  simp [settle, due, hnone, hslots, hruns, hrunning]

/-! ### Calls -/

/-- The slot that a call fills. -/
def Call.slots (now : Nat) : Call → List (Uri × Slot)
  | .schedule uri delay job => [(uri, .waiting (now + delay) job)]
  | _ => []

theorem apply_now (d : Debouncer) (c : Call) : (d.apply c).now = d.now + c.elapsed := by
  cases c <;> rfl

theorem apply_running (d : Debouncer) (c : Call) : (d.apply c).running = d.running := by
  cases c <;> rfl

/-- A call fills its slot and empties those whose job it takes back. -/
theorem apply_slots {d : Debouncer} (h : Assoc.Distinct d.slots) (c : Call) :
    (d.apply c).slots.Perm (c.slots d.now ++ d.slots.filter fun e => !c.revokes e.1) := by
  have hne : ∀ uri, (d.slots.filter fun e => !decide (uri = e.1)) = Assoc.erase uri d.slots := by
    intro uri
    simp [Assoc.erase_eq_filter, Eq.comm]
  cases c with
  | schedule uri delay job =>
      simp only [apply, schedule, Call.slots, Call.revokes, hne]
      exact h.set_perm uri _
  | cancel uri =>
      simp only [apply, cancel, Call.slots, Call.revokes, hne, List.nil_append]
      exact .refl _
  | cancelAll => simp [apply, cancelAll, Call.slots, Call.revokes]
  | wait ms =>
      have hall : (d.slots.filter fun _ => true) = d.slots := List.filter_eq_self.2 fun _ _ => rfl
      simp [apply, wait, Call.slots, Call.revokes, hall]

theorem apply_distinct {d : Debouncer} (h : Assoc.Distinct d.slots) (c : Call) :
    Assoc.Distinct (d.apply c).slots := by
  cases c with
  | schedule uri delay job => exact h.set uri _
  | cancel uri => exact h.erase uri
  | cancelAll => exact List.nodup_nil
  | wait ms => exact h

/-- Only the job that a call schedules is newly owed. -/
theorem apply_outlook {d : Debouncer} (h : d.Settled) (c : Call) (calls : List Call) :
    ((d.apply c).outlook calls).Perm (c.course d.now calls ++ d.outlook (c :: calls)) := by
  have hnew : c.course d.now calls =
      (c.slots d.now).flatMap fun (uri, slot) => owed (d.now + c.elapsed) uri calls slot := by
    cases c <;> simp [Call.course, Call.slots, owed, Call.elapsed]
  -- The slots that the call leaves alone owe the same, seen from one call later.
  have hold : (d.slots.flatMap fun (uri, slot) => owed d.now uri (c :: calls) slot) =
      (d.slots.filter fun e => !c.revokes e.1).flatMap
        fun (uri, slot) => owed (d.now + c.elapsed) uri calls slot := by
    have hslots := h.waits
    generalize d.slots = slots at hslots
    induction slots with
    | nil => rfl
    | cons entry rest ih =>
        rcases entry with ⟨uri, slot⟩
        have hwaits : ∀ due job, slot = .waiting due job → d.now < due := by
          rintro due job rfl
          exact hslots uri due job List.mem_cons_self
        have hrest := ih fun u due job hmem => hslots u due job (List.mem_cons_of_mem _ hmem)
        cases hc : c.revokes uri with
        | true => simp [owed_cons c calls hwaits, hc, hrest]
        | false => simp [owed_cons c calls hwaits, hc, hrest]
  have hslots := (apply_slots h.distinct c).flatMap_right
    fun (uri, slot) => owed (d.now + c.elapsed) uri calls slot
  rw [List.flatMap_append, ← hnew, ← hold] at hslots
  simp only [outlook, apply_now, apply_running, elapsed_cons, ← Nat.add_assoc]
  simpa only [List.append_assoc] using hslots.append_right _

theorem step_settled {d : Debouncer} (h : d.Settled) (c : Call) : (d.step c).1.Settled :=
  settle_settled (apply_distinct h.distinct c)

theorem step_now (d : Debouncer) (c : Call) : (d.step c).1.now = d.now + c.elapsed :=
  d.apply_now c

theorem outlook_nil {d : Debouncer} (h : d.Settled) : d.outlook [] = [] := by
  simp only [outlook, List.append_eq_nil_iff, List.flatMap_eq_nil_iff, List.filterMap_eq_nil_iff]
  constructor
  · rintro ⟨uri, slot⟩ hmem
    cases slot with
    | started finish => rfl
    | waiting due job =>
        have hdue : ¬ due ≤ d.now := Nat.not_le.2 (h.waits uri due job hmem)
        simp [owed, course, hdue]
  · intro r hr
    have hlater : ¬ r.finish ≤ d.now := Nat.not_le.2 (h.runs r hr)
    simp [finishEvent?, hlater]

/-! ## Whole runs -/

theorem run_settled {d : Debouncer} (h : d.Settled) (calls : List Call) :
    (d.run calls).1.Settled := by
  induction calls generalizing d with
  | nil => exact h
  | cons c rest ih => exact ih (step_settled h c)

/-- A run pays what was owed before it and what its own calls lead to. -/
theorem run_events {d : Debouncer} (h : d.Settled) (calls : List Call) :
    (d.run calls).2.Perm (d.outlook calls ++ expected d.now calls) := by
  induction calls generalizing d with
  | nil => simp [run, expected, outlook_nil h]
  | cons c rest ih =>
      have hrest := ih (step_settled h c)
      rw [step_now] at hrest
      have hpaid : ((d.step c).2 ++ (d.step c).1.outlook rest).Perm
          (c.course d.now rest ++ d.outlook (c :: rest)) :=
        ((d.apply c).settle_outlook rest).trans (apply_outlook h c rest)
      -- What the first call leaves owed is paid in the rest of the run.
      refine List.perm_iff_count.2 ?_
      intro e
      have hrest := hrest.count_eq e
      have hpaid := hpaid.count_eq e
      simp only [run, expected, List.count_append] at *
      omega

/-! ### The latest job of a document -/

theorem latest_append {calls : List Call} {c : Call} {uri : Uri} {due : Nat} {job : Job} :
    Latest (calls ++ [c]) uri due job ↔
      (∃ delay, c = .schedule uri delay job ∧ due = elapsed calls + delay) ∨
        (c.revokes uri = false ∧ Latest calls uri due job) := by
  constructor
  · rintro ⟨before, delay, after, heq, hafter, hdue⟩
    -- The call at the end is the one that schedules, or one of those behind it.
    rcases List.eq_nil_or_concat after with rfl | ⟨rest, last, rfl⟩
    · rcases List.append_inj' heq rfl with ⟨rfl, hlast⟩
      cases hlast
      exact .inl ⟨delay, rfl, hdue⟩
    · have heq : calls ++ [c] = (before ++ .schedule uri delay job :: rest) ++ [last] := by
        simpa using heq
      rcases List.append_inj' heq rfl with ⟨rfl, hlast⟩
      cases hlast
      refine .inr ⟨hafter c (by simp), before, delay, rest, rfl, ?_, hdue⟩
      intro c' hc'
      exact hafter c' (by simp [hc'])
  · rintro (⟨delay, rfl, rfl⟩ | ⟨hc, before, delay, after, rfl, hafter, hdue⟩)
    · exact ⟨calls, delay, [], rfl, fun _ h => (List.not_mem_nil h).elim, rfl⟩
    · refine ⟨before, delay, after ++ [c], by simp, ?_, hdue⟩
      intro c' hc'
      rcases List.mem_append.1 hc' with h | h
      · exact hafter c' h
      · cases List.mem_singleton.1 h
        exact hc

theorem advance_advance {slot : Slot} {now later : Nat} (h : now ≤ later) :
    (slot.advance now).advance later = slot.advance later := by
  cases slot with
  | started finish => rfl
  | waiting due job =>
      by_cases hdue : due ≤ now
      · have hlater : due ≤ later := by omega
        simp [Slot.advance_waiting, hdue, hlater]
        rfl
      · simp [Slot.advance_waiting, hdue]

theorem apply_slot (d : Debouncer) (c : Call) (uri : Uri) :
    Assoc.get? uri (d.apply c).slots =
      if c.revokes uri then Assoc.get? uri (c.slots d.now) else Assoc.get? uri d.slots := by
  cases c with
  | schedule u delay job =>
      by_cases hu : u = uri
      · subst hu
        simp [apply, schedule, Call.revokes, Call.slots, Assoc.get?]
      · simp [apply, schedule, Call.revokes, hu, Assoc.get?_set_of_ne (Ne.symm hu)]
  | cancel u =>
      by_cases hu : u = uri
      · subst hu
        simp [apply, cancel, Call.revokes, Call.slots, Assoc.get?]
      · simp [apply, cancel, Call.revokes, hu, Assoc.get?_erase_of_ne (Ne.symm hu)]
  | cancelAll => rfl
  | wait ms => rfl

/-- The slots hold the latest jobs of the calls so far. -/
structure Recalls (d : Debouncer) (calls : List Call) : Prop where
  now : d.now = elapsed calls
  slot : ∀ uri slot, Assoc.get? uri d.slots = some slot ↔
    ∃ due job, Latest calls uri due job ∧ slot = (Slot.waiting due job).advance d.now

theorem recalls_empty : Recalls empty [] := by
  refine ⟨rfl, ?_⟩
  intro uri slot
  constructor
  · intro h
    cases h
  · rintro ⟨due, job, ⟨before, delay, after, heq, -⟩, -⟩
    simp at heq

theorem Recalls.step {d : Debouncer} {calls : List Call} (h : d.Recalls calls) (c : Call) :
    (d.step c).1.Recalls (calls ++ [c]) := by
  refine ⟨by simp [step_now, h.now], ?_⟩
  intro uri slot
  have hget : Assoc.get? uri (d.step c).1.slots =
      (Assoc.get? uri (d.apply c).slots).map (Slot.advance (d.now + c.elapsed)) := by
    rw [← apply_now]
    exact (d.apply c).settle_slot uri
  rw [hget, apply_slot, step_now]
  simp only [latest_append]
  cases hc : c.revokes uri with
  | false =>
      -- The slot is the one before, with the clock moved on.
      have hsame : ∀ delay job, c ≠ .schedule uri delay job := by
        rintro delay job rfl
        simp [Call.revokes] at hc
      simp only [hsame, false_and, exists_false, false_or, true_and, if_false, Bool.false_eq_true]
      constructor
      · intro hslot
        rcases Option.map_eq_some_iff.1 hslot with ⟨old, hold, rfl⟩
        rcases (h.slot uri old).1 hold with ⟨due, job, hlatest, rfl⟩
        exact ⟨due, job, hlatest, advance_advance (Nat.le_add_right _ _)⟩
      · rintro ⟨due, job, hlatest, rfl⟩
        rw [(h.slot uri _).2 ⟨due, job, hlatest, rfl⟩, Option.map_some,
          advance_advance (Nat.le_add_right _ _)]
  | true =>
      -- Only a call that schedules a job leaves one behind.
      simp only [if_true, Bool.true_eq_false, false_and, or_false]
      cases c with
      | schedule u delay job =>
          have hu : u = uri := by simpa [Call.revokes] using hc
          subst hu
          constructor
          · intro hslot
            refine ⟨d.now + delay, job, ⟨delay, rfl, by rw [h.now]⟩, ?_⟩
            simpa [Call.slots, Assoc.get?, Eq.comm] using hslot
          · rintro ⟨due, job', ⟨delay', hsame, rfl⟩, rfl⟩
            cases hsame
            simp [Call.slots, Assoc.get?, h.now]
      | cancel u => simp [Call.slots, Assoc.get?]
      | cancelAll => simp [Call.slots, Assoc.get?]
      | wait ms => simp [Call.revokes] at hc

theorem Recalls.run {d : Debouncer} {before : List Call} (h : d.Recalls before)
    (calls : List Call) : (d.run calls).1.Recalls (before ++ calls) := by
  induction calls generalizing d before with
  | nil => simpa [Debouncer.run] using h
  | cons c rest ih => simpa [Debouncer.run] using ih (h.step c)

/-! ### What waits, and what is pending -/

theorem waitingFor_eq {d : Debouncer} (h : d.Settled) (uri : Uri) :
    d.waitingFor uri = ((Assoc.get? uri d.slots).bind waiting?).toList :=
  h.distinct.filterMap_key uri waiting?

theorem mem_waitingFor_iff {d : Debouncer} {calls : List Call} (h : d.Settled)
    (hr : d.Recalls calls) {uri : Uri} {job : Job} :
    job ∈ d.waitingFor uri ↔ ∃ due, Latest calls uri due job ∧ elapsed calls < due := by
  rw [waitingFor_eq h, Option.mem_toList, Option.bind_eq_some_iff, ← hr.now]
  constructor
  · rintro ⟨slot, hslot, hwaiting⟩
    rcases (hr.slot uri slot).1 hslot with ⟨due, job', hlatest, rfl⟩
    rw [Slot.advance_waiting] at hwaiting
    by_cases hdue : due ≤ d.now
    · simp [hdue, waiting?] at hwaiting
    · rw [if_neg hdue] at hwaiting
      cases hwaiting
      exact ⟨due, hlatest, Nat.lt_of_not_le hdue⟩
  · rintro ⟨due, hlatest, hdue⟩
    refine ⟨_, (hr.slot uri _).2 ⟨due, job, hlatest, rfl⟩, ?_⟩
    simp [Slot.advance_waiting, Nat.not_le.2 hdue, waiting?]

theorem isPending_advance (now due : Nat) (job : Job) :
    ((Slot.waiting due job).advance now).isPending now = true ↔ now < due + job.takes := by
  rw [Slot.advance_waiting]
  by_cases hdue : due ≤ now
  · simp [hdue, Slot.isPending]
  · simp [hdue, Slot.isPending]
    omega

/-- The documents whose latest job is not over. -/
def pendingUris (d : Debouncer) : List Uri :=
  (d.slots.filter fun (_, s) => s.isPending d.now).map (·.1)

theorem mem_pendingUris_iff {d : Debouncer} {calls : List Call} (h : d.Settled)
    (hr : d.Recalls calls) {uri : Uri} :
    uri ∈ d.pendingUris ↔
      ∃ due job, Latest calls uri due job ∧ elapsed calls < due + job.takes := by
  simp only [pendingUris, List.mem_map, List.mem_filter, ← hr.now]
  constructor
  · rintro ⟨⟨u, slot⟩, ⟨hmem, hpending⟩, rfl⟩
    rcases (hr.slot u slot).1 (h.distinct.get?_eq_some_iff.2 hmem) with ⟨due, job, hlatest, rfl⟩
    exact ⟨due, job, hlatest, (isPending_advance _ _ _).1 hpending⟩
  · rintro ⟨due, job, hlatest, hover⟩
    have hslot := (hr.slot uri _).2 ⟨due, job, hlatest, rfl⟩
    exact ⟨_, ⟨Assoc.mem_of_get? hslot, (isPending_advance _ _ _).2 hover⟩, rfl⟩

/-! ### A job with a name of its own -/

theorem job_of_mem_course {now : Nat} {uri : Uri} {due : Nat} {job : Job} {calls : List Call}
    {e : Event} (h : e ∈ course now uri due job calls) : e.job = job.name := by
  simp only [course] at h
  split at h
  · rcases List.mem_cons.1 h with rfl | h
    · rfl
    · split at h
      · cases List.mem_singleton.1 h
        rfl
      · cases h
  · cases h

theorem filter_course (now : Nat) (uri : Uri) (due : Nat) (job : Job) (calls : List Call)
    (name : String) :
    ((course now uri due job calls).filter fun e => e.job = name) =
      if job.name = name then course now uri due job calls else [] := by
  by_cases hname : job.name = name
  · rw [if_pos hname, List.filter_eq_self]
    intro e he
    simp [job_of_mem_course he, hname]
  · rw [if_neg hname, List.filter_eq_nil_iff]
    intro e he
    simp [job_of_mem_course he, hname]

theorem filter_course_of_ne (now : Nat) {c : Call} (calls : List Call) {name : String}
    (h : c.jobName? ≠ some name) :
    ((c.course now calls).filter fun e => e.job = name) = [] := by
  cases c with
  | schedule uri delay job =>
      have hname : job.name ≠ name := fun heq => h (congrArg some heq)
      simp only [Call.course, filter_course, if_neg hname]
  | cancel uri => rfl
  | cancelAll => rfl
  | wait ms => rfl

theorem filter_expected_of_ne (now : Nat) {calls : List Call} {name : String}
    (h : ∀ c ∈ calls, c.jobName? ≠ some name) :
    ((expected now calls).filter fun e => e.job = name) = [] := by
  induction calls generalizing now with
  | nil => rfl
  | cons c rest ih =>
      have hhead := filter_course_of_ne now rest (h c List.mem_cons_self)
      have hrest := ih (now + c.elapsed) fun c' hc' => h c' (List.mem_cons_of_mem _ hc')
      simp only [expected, List.filter_append, hhead, hrest, List.append_nil]

theorem filter_expected (now : Nat) {before after : List Call} {uri : Uri} {delay : Nat}
    {job : Job} (h : ∀ c ∈ before ++ after, c.jobName? ≠ some job.name) :
    ((expected now (before ++ .schedule uri delay job :: after)).filter
      fun e => e.job = job.name) =
        course (now + elapsed before) uri (now + elapsed before + delay) job after := by
  induction before generalizing now with
  | nil =>
      have hafter := filter_expected_of_ne now h
      simpa [expected, Call.course, filter_course, Call.elapsed] using hafter
  | cons c rest ih =>
      have hhead := filter_course_of_ne now (rest ++ .schedule uri delay job :: after)
        (h c List.mem_cons_self)
      have hrest := ih (now + c.elapsed) fun c' hc' => h c' (List.mem_cons_of_mem _ hc')
      simp only [List.cons_append, expected, List.filter_append, hhead, hrest, elapsed_cons,
        List.nil_append, Nat.add_assoc]

/-- The events of a run are those of its jobs, each counted as often as a job has it: a job starts
at its due time if the clock gets there before its wait is ended, and is over when its time has
passed.  A document has at most one job waiting, its latest one, and the pending documents are those
whose latest job was not taken back and is not over. -/
theorem run_lawful (calls : List Call) :
    let d := (empty.run calls).1
    let events := (empty.run calls).2
    events.Perm (expected 0 calls) ∧
      (∀ before uri delay job after, calls = before ++ .schedule uri delay job :: after →
        (∀ c ∈ before ++ after, c.jobName? ≠ some job.name) →
        (events.filter fun e => e.job = job.name).Perm
          (course (elapsed before) uri (elapsed before + delay) job after)) ∧
      (∀ uri, (d.waitingFor uri).length ≤ 1 ∧
        ∀ job, job ∈ d.waitingFor uri ↔ ∃ due, Latest calls uri due job ∧ elapsed calls < due) ∧
      ∃ uris : List Uri, uris.Nodup ∧ d.pending = uris.length ∧
        ∀ uri, uri ∈ uris ↔
          ∃ due job, Latest calls uri due job ∧ elapsed calls < due + job.takes := by
  intro d events
  have hsettled : d.Settled := run_settled settled_empty calls
  have hrecalls : d.Recalls calls := recalls_empty.run calls
  have hevents : events.Perm (expected 0 calls) := run_events settled_empty calls
  refine ⟨hevents, ?_, ?_, d.pendingUris, ?_, ?_, ?_⟩
  · -- No other call gives a job this name, so its events are those of one course.
    rintro before uri delay job after rfl hname
    have hown := hevents.filter fun e => e.job = job.name
    rw [filter_expected 0 hname, Nat.zero_add] at hown
    exact hown
  · intro uri
    refine ⟨?_, fun job => mem_waitingFor_iff hsettled hrecalls⟩
    rw [waitingFor_eq hsettled]
    cases (Assoc.get? uri d.slots).bind waiting? <;> simp
  · exact hsettled.distinct.sublist (List.filter_sublist.map _)
  · exact (List.length_map _).symm
  · intro uri
    exact mem_pendingUris_iff hsettled hrecalls

/-- A job that has started is over in its own time although another takes its place, and one that
still waits is replaced for good. -/
theorem run_lawful_retriggered :
    let uri : Uri := ⟨"file:///a.cs"⟩
    let slow : Job := ⟨"slow", 50⟩
    let events := (empty.run [.schedule uri 100 slow, .wait 120, .schedule uri 100 ⟨"next", 0⟩,
      .wait 60, .schedule uri 10 ⟨"last", 0⟩, .wait 100]).2
    (events.filter fun e => e.job = "slow").Perm [⟨100, "slow", .start⟩, ⟨150, "slow", .finish⟩] ∧
      (events.filter fun e => e.job = "next").Perm [] ∧
      (events.filter fun e => e.job = "last").Perm
        [⟨190, "last", .start⟩, ⟨190, "last", .finish⟩] := by
  intro uri slow events
  have hlaw := (run_lawful [.schedule uri 100 slow, .wait 120, .schedule uri 100 ⟨"next", 0⟩,
    .wait 60, .schedule uri 10 ⟨"last", 0⟩, .wait 100]).2.1
  refine ⟨?_, ?_, ?_⟩
  · exact hlaw [] uri 100 slow _ rfl (by decide)
  · exact hlaw [.schedule uri 100 slow, .wait 120] uri 100 ⟨"next", 0⟩ _ rfl (by decide)
  · exact hlaw [.schedule uri 100 slow, .wait 120, .schedule uri 100 ⟨"next", 0⟩, .wait 60] uri 10
      ⟨"last", 0⟩ _ rfl (by decide)

end Debouncer
end Server
end EmbeddedSql
