import DepthRelay.Timing
import Mathlib.Data.List.Induction
import Mathlib.Data.List.Sort

namespace DepthRelay

/-!
# A timing log and its history

What a log hands over depends on everything that has been done to it: when it was on, and when it
was emptied, which switching it on does as well as handing over.

* `TimingLog.Call` — what can be done to a log; `TimingLog.after` is the log after a row of calls.
* `TimingLog.switchedOn`, `TimingLog.kept` — what the history of a log says: whether it is on, and
  which samples have been recorded while it was on and not been removed since.
* `TimingLog.after_eq` — the log is what its history says.
* `TimingLog.pairwise_ordered`, `TimingLog.filter_ordered` — samples are handed over in order of
  start, those that start together in the order in which they were recorded.
* `timing_log_history` — this for every history, and what single calls do to what is handed over
  next.
-/

namespace TimingLog

/-! ### Histories -/

/-- Something that is done to a log. -/
inductive Call
  | setEnabled (on : Bool)
  | record (x : TimingSample)
  | drain
  deriving DecidableEq, Repr

/-- The log after a call. -/
def Call.perform (l : TimingLog) : Call → TimingLog
  | .setEnabled on => l.setEnabled on
  | .record x => l.record x
  | .drain => l.drain.2

/-- The log after a row of calls, the first one first. -/
def after (l : TimingLog) (history : List Call) : TimingLog := history.foldl Call.perform l

/-- Whether a call removes all samples that were recorded before. -/
def Call.clears : Call → Bool
  | .setEnabled on => on
  | .record _ => false
  | .drain => true

/-- What a call switches the log to, if it is a switch. -/
def Call.switch? : Call → Option Bool
  | .setEnabled on => some on
  | _ => none

/-- What the log was switched to last.  It is off before any call. -/
def switchedOn (history : List Call) : Bool := (history.reverse.findSome? Call.switch?).getD false

/-- The sample that call number `k` has recorded, if the log was on then and no later call has
    removed it. -/
def keptAt? (history : List Call) (k : Nat) : Option TimingSample :=
  match history[k]? with
  | some (.record x) =>
    if switchedOn (history.take k) && (history.drop (k + 1)).all (!·.clears) then some x else none
  | _ => none

/-- Samples that were recorded while the log was on and have not been removed since, in the order in
    which they were recorded. -/
def kept (history : List Call) : List TimingSample :=
  (List.range history.length).filterMap (keptAt? history)

variable {history : List Call} {c : Call} {k : Nat} {l : TimingLog}

theorem after_append_singleton (l : TimingLog) (history : List Call) (c : Call) :
    l.after (history ++ [c]) = c.perform (l.after history) := by
  simp [after]

/-- One more call switches the log, or leaves it as it was. -/
theorem switchedOn_append_singleton (history : List Call) (c : Call) :
    switchedOn (history ++ [c]) = c.switch?.getD (switchedOn history) := by
  unfold switchedOn
  rw [List.reverse_concat, List.findSome?_cons]
  cases c.switch? <;> rfl

/-- A call removes all samples that were kept, or none. -/
theorem keptAt?_append_of_lt (hk : k < history.length) :
    keptAt? (history ++ [c]) k = if c.clears then none else keptAt? history k := by
  unfold keptAt?
  rw [List.getElem?_append_left hk, List.take_append_of_le_length (Nat.le_of_lt hk),
    List.drop_append_of_le_length hk, List.all_append]
  cases history[k]? with
  | none => simp
  | some call => cases call <;> cases hclears : c.clears <;> simp [hclears]

/-- The last call keeps a sample if it records one and the log is on. -/
theorem keptAt?_append_self :
    keptAt? (history ++ [c]) history.length =
      match c with
      | .record x => if switchedOn history then some x else none
      | _ => none := by
  unfold keptAt?
  rw [List.getElem?_concat_length, List.take_left, List.drop_of_length_le (by simp)]
  cases c <;> simp

/-- One more call clears what was kept, or adds its own sample, or does nothing. -/
theorem kept_append_singleton (history : List Call) (c : Call) :
    kept (history ++ [c]) =
      (if c.clears then [] else kept history) ++
        match c with
        | .record x => if switchedOn history then [x] else []
        | _ => [] := by
  have hbefore : (List.range history.length).filterMap (keptAt? (history ++ [c])) =
      if c.clears then [] else kept history := by
    rw [List.filterMap_congr fun k hk => keptAt?_append_of_lt (List.mem_range.mp hk)]
    cases c.clears <;> simp [kept]
  unfold kept at hbefore ⊢
  rw [List.length_append, List.length_singleton, List.range_succ, List.filterMap_append, hbefore]
  simp only [List.filterMap_cons, keptAt?_append_self, List.filterMap_nil]
  cases c with
  | record x => cases switchedOn history <;> simp
  | setEnabled on => simp
  | drain => simp

/-- **The log is what its history says.** -/
theorem after_eq (history : List Call) :
    TimingLog.after {} history = { enabled := switchedOn history, samples := kept history } := by
  induction history using List.reverseRecOn with
  | nil => rfl
  | append_singleton history c ih =>
    rw [after_append_singleton, ih, switchedOn_append_singleton, kept_append_singleton]
    cases c with
    | setEnabled on =>
      cases on <;> simp [Call.perform, Call.switch?, Call.clears, TimingLog.setEnabled]
    | record x =>
      cases switchedOn history <;>
        simp [Call.perform, Call.switch?, Call.clears, TimingLog.record]
    | drain => simp [Call.perform, Call.switch?, Call.clears, TimingLog.drain]

/-! ### The order of samples -/

/-- One sample may stand in front of another. -/
def precedes (a b : TimingSample) : Bool := a.start ≤ b.start

theorem precedes_trans (a b c : TimingSample) (hab : precedes a b = true)
    (hbc : precedes b c = true) : precedes a c = true :=
  decide_eq_true (Int.le_trans (of_decide_eq_true hab) (of_decide_eq_true hbc))

theorem precedes_total (a b : TimingSample) : (precedes a b || precedes b a) = true := by
  simp [precedes, Int.le_total]

/-- Samples are handed over in the order in which their spans begin. -/
theorem pairwise_ordered (l : TimingLog) : l.ordered.Pairwise (·.start ≤ ·.start) :=
  (List.pairwise_mergeSort precedes_trans precedes_total l.samples).imp fun hab =>
    of_decide_eq_true hab

theorem ordered_perm (l : TimingLog) : l.ordered.Perm l.samples := List.mergeSort_perm ..

/-- Samples that start together keep the order in which they were recorded. -/
theorem filter_ordered (t : Moment) (l : TimingLog) :
    l.ordered.filter (·.start = t) = l.samples.filter (·.start = t) := by
  have htied : (l.samples.filter (·.start = t)).Pairwise fun a b => precedes a b = true := by
    refine List.Pairwise.imp_of_mem (R := fun _ _ => True) (fun ha hb _ => ?_)
      (List.pairwise_of_forall fun _ _ => trivial)
    have ha := of_decide_eq_true (List.mem_filter.mp ha).2
    have hb := of_decide_eq_true (List.mem_filter.mp hb).2
    exact decide_eq_true (Int.le_of_eq (ha.trans hb.symm))
  -- Sorting keeps a part that is in order already, and finds no other samples that start then.
  have hsublist : (l.samples.filter (·.start = t)).Sublist l.ordered :=
    List.sublist_mergeSort precedes_trans precedes_total htied List.filter_sublist
  have hfiltered := hsublist.filter (·.start = t)
  rw [List.filter_filter] at hfiltered
  simp only [Bool.and_self] at hfiltered
  exact (hfiltered.eq_of_length (l.ordered_perm.filter _).length_eq.symm).symm

end TimingLog

/-! ### Any history -/

/-- **What a log hands over.**  After any history these are the samples that were recorded while the
    log was on, since it was last handed over and last switched on, each as often as it was
    recorded; they come in order of start, and those that start together in the order in which they
    were recorded.  There are as many as the log says, and none is left.  A sample that is recorded
    while the log is off makes no difference, and neither does switching the log off. -/
theorem timing_log_history (history : List TimingLog.Call) :
    let l := TimingLog.after {} history
    l.drain.1.Perm (TimingLog.kept history) ∧
      l.drain.1.Pairwise (·.start ≤ ·.start) ∧
      (∀ t, l.drain.1.filter (·.start = t) = (TimingLog.kept history).filter (·.start = t)) ∧
      l.size = l.drain.1.length ∧
      l.drain.2 = { enabled := TimingLog.switchedOn history, samples := [] } ∧
      (∀ x, (l.record x).samples =
        if TimingLog.switchedOn history then l.samples ++ [x] else l.samples) ∧
      (l.setEnabled false).drain.1 = l.drain.1 := by
  intro l
  have hl : l = { enabled := TimingLog.switchedOn history, samples := TimingLog.kept history } :=
    TimingLog.after_eq history
  have hsamples : l.samples = TimingLog.kept history := by rw [hl]
  have henabled : l.enabled = TimingLog.switchedOn history := by rw [hl]
  refine ⟨hsamples ▸ l.ordered_perm, l.pairwise_ordered, fun t => hsamples ▸ l.filter_ordered t,
    l.length_drain.symm, ?_, fun x => ?_, rfl⟩
  · rw [← henabled]
    rfl
  · rw [← henabled]
    unfold TimingLog.record
    cases l.enabled <;> rfl

/-- A sample from before the log was switched on again is gone, and so is one that is recorded while
    it is off; of two that start together the first one comes first. -/
example :
    (TimingLog.after {} [.setEnabled true, .record ⟨1, 2⟩, .setEnabled false, .record ⟨2, 3⟩,
      .setEnabled true, .record ⟨7, 9⟩, .record ⟨5, 8⟩, .record ⟨7, 8⟩, .setEnabled false,
      .record ⟨6, 7⟩]).drain.1 = [⟨5, 8⟩, ⟨7, 9⟩, ⟨7, 8⟩] := by
  cbv

end DepthRelay
