import HostAddr.Proofs.DistinctRecords
import Mathlib.Data.List.SplitBy

/-!
# Runs of records

Records with one key text that follow each other are a run, and dropping repetitions leaves the
first record of each run. The key that is carried along is that of the last record kept, and it is
also that of the last record read, so two lists one after another differ from each on its own only
where a run goes on from the first into the second.
-/

namespace HostAddr

/-- The runs of a list: as long as they can be, each of one key text. -/
structure AreRuns (key : UniqueKey) (rs : List Record) (runs : List (List Record)) : Prop where
  flatten_eq : runs.flatten = rs
  ne_nil : ∀ run ∈ runs, run ≠ []
  same : ∀ run ∈ runs, ∀ r ∈ run, ∀ s ∈ run, key.text r = key.text s
  apart : runs.IsChain fun run next => ∀ r ∈ run, ∀ s ∈ next, key.text r ≠ key.text s

section

variable {key : UniqueKey} {last : Option String} {r : Record} {rs run : List Record}
  {runs : List (List Record)}

/-- The key text of the last record, or `last` if there is no record. -/
def lastText (key : UniqueKey) (last : Option String) (rs : List Record) : Option String :=
  (rs.getLast?.map key.text).or last

lemma lastText_none (key : UniqueKey) (rs : List Record) :
    lastText key none rs = rs.getLast?.map key.text :=
  Option.or_none

lemma lastText_cons (key : UniqueKey) (last : Option String) (r : Record) (rs : List Record) :
    lastText key last (r :: rs) = lastText key (some (key.text r)) rs := by
  rw [lastText, lastText, List.getLast?_cons]
  cases rs.getLast? <;> rfl

/-- The key carried past a list is that of its last record, kept or not. -/
theorem dropRepeats_append (key : UniqueKey) (last : Option String) (xs ys : List Record) :
    dropRepeats key last (xs ++ ys) =
      dropRepeats key last xs ++ dropRepeats key (lastText key last xs) ys := by
  induction xs generalizing last with
  | nil => rfl
  | cons x xs ih =>
    rw [List.cons_append, dropRepeats, dropRepeats, lastText_cons]
    split
    · rename_i hlast
      rw [ih, hlast]
    · rw [ih, List.cons_append]

/-- Only the first record that is kept depends on the key carried before. -/
lemma dropRepeats_eq_ite (key : UniqueKey) (last : Option String) (rs : List Record) :
    dropRepeats key last rs =
      if (dropRepeats key none rs).head?.map key.text = last then (dropRepeats key none rs).tail
      else dropRepeats key none rs := by
  cases rs with
  | nil => exact (ite_self []).symm
  | cons r rs =>
    have hfirst : dropRepeats key none (r :: rs) = r :: dropRepeats key (some (key.text r)) rs :=
      if_neg (by simp)
    rw [hfirst, List.head?_cons, Option.map_some, List.tail_cons, dropRepeats]
    by_cases hlast : last = some (key.text r)
    · rw [if_pos hlast, if_pos hlast.symm, hlast]
    · rw [if_neg hlast, if_neg (Ne.symm hlast)]

lemma dropRepeats_of_same (h : ∀ r ∈ rs, last = some (key.text r)) :
    dropRepeats key last rs = [] := by
  induction rs with
  | nil => rfl
  | cons r rs ih =>
    obtain ⟨hr, hrs⟩ := List.forall_mem_cons.1 h
    rw [dropRepeats, if_pos hr, ih hrs]

lemma dropRepeats_run (hlast : last ≠ some (key.text r))
    (h : ∀ s ∈ rs, key.text r = key.text s) : dropRepeats key last (r :: rs) = [r] := by
  rw [dropRepeats, if_neg hlast, dropRepeats_of_same fun s hs => congrArg some (h s hs)]

lemma lastText_run (h : ∀ s ∈ rs, key.text r = key.text s) (last : Option String) :
    lastText key last (r :: rs) = some (key.text r) := by
  rw [lastText_cons, lastText]
  cases hlast : rs.getLast? with
  | none => rfl
  | some s => exact congrArg some (h s (List.mem_of_getLast? hlast)).symm

/-- Dropping repetitions leaves the first record of every run. -/
theorem AreRuns.map_some_dropRepeats (h : AreRuns key rs runs)
    (hlast : ∀ run ∈ runs.head?, ∀ r ∈ run, last ≠ some (key.text r)) :
    (dropRepeats key last rs).map some = runs.map List.head? := by
  obtain ⟨rfl, hne, hsame, hapart⟩ := h
  induction runs generalizing last with
  | nil => rfl
  | cons run runs ih =>
    obtain ⟨hrun, hruns⟩ := List.forall_mem_cons.1 hne
    obtain ⟨hrunSame, hrunsSame⟩ := List.forall_mem_cons.1 hsame
    obtain ⟨hnext, hchain⟩ := List.isChain_cons.1 hapart
    obtain ⟨r, rest, rfl⟩ := List.exists_cons_of_ne_nil hrun
    have hrest : ∀ s ∈ rest, key.text r = key.text s := fun s hs =>
      hrunSame r List.mem_cons_self s (List.mem_cons_of_mem r hs)
    have htail := @ih (some (key.text r)) (fun next hmem s hs heq =>
      hnext next hmem r List.mem_cons_self s hs (Option.some.inj heq)) hruns hrunsSame hchain
    rw [List.flatten_cons, dropRepeats_append, lastText_run hrest,
      dropRepeats_run (hlast _ rfl r List.mem_cons_self) hrest, List.map_append, htail]
    rfl

lemma same_iff_isChain : (∀ r ∈ run, ∀ s ∈ run, key.text r = key.text s) ↔
    run.IsChain fun r s => (key.text r == key.text s) = true := by
  have hchain : (run.IsChain fun r s => (key.text r == key.text s) = true) ↔
      (run.map key.text).IsChain (· = ·) := by
    rw [List.isChain_map]
    simp only [beq_iff_eq]
  rw [hchain, List.isChain_iff_pairwise]
  constructor
  · intro h
    exact List.pairwise_map.2 (List.pairwise_of_forall_mem_list h)
  · intro h r hr s hs
    exact h.forall_of_forall (fun _ _ => rfl) (List.mem_map_of_mem hr) (List.mem_map_of_mem hs)

/-- A list has one division into runs. -/
theorem areRuns_iff : AreRuns key rs runs ↔
    rs.splitBy (fun r s => key.text r == key.text s) = runs := by
  rw [List.splitBy_eq_iff]
  constructor
  · intro h
    refine ⟨h.flatten_eq.symm, fun hnil => h.ne_nil [] hnil rfl,
      fun run hrun => same_iff_isChain.1 (h.same run hrun),
      h.apart.imp_of_mem_imp fun run next hrun hnext hne => ?_⟩
    refine ⟨h.ne_nil run hrun, h.ne_nil next hnext, beq_eq_false_iff_ne.2 ?_⟩
    exact hne _ (List.getLast_mem _) _ (List.head_mem _)
  · rintro ⟨hflatten, hnil, hchain, hapart⟩
    have hsame : ∀ run ∈ runs, ∀ r ∈ run, ∀ s ∈ run, key.text r = key.text s :=
      fun run hrun => same_iff_isChain.2 (hchain run hrun)
    refine ⟨hflatten.symm, fun run hrun hrunNil => hnil (hrunNil ▸ hrun), hsame,
      hapart.imp_of_mem_imp fun run next hrun hnext hne r hr s hs heq => ?_⟩
    obtain ⟨hrunNe, hnextNe, hne⟩ := hne
    refine beq_eq_false_iff_ne.1 hne ?_
    calc key.text (run.getLast hrunNe)
      _ = key.text r := hsame run hrun _ (List.getLast_mem _) r hr
      _ = key.text s := heq
      _ = key.text (next.head hnextNe) := hsame next hnext s hs _ (List.head_mem _)

end

/-- What a function does that leaves the first record of every run. -/
structure CollapsesRuns (key : UniqueKey) (collapse : List Record → List Record) : Prop where
  runs : ∀ xs, ∃! runs, AreRuns key xs runs
  firsts : ∀ xs runs, AreRuns key xs runs → (collapse xs).map some = runs.map List.head?
  sublist : ∀ xs, (collapse xs).Sublist xs
  apart : ∀ xs, (collapse xs).IsChain (key.text · ≠ key.text ·)
  survives : ∀ xs, ∀ r ∈ xs, ∃ s ∈ collapse xs, key.text s = key.text r
  idempotent : ∀ xs, collapse (collapse xs) = collapse xs
  /-- Where the last record of one list and the first of the next have one key text, that run is
  already there. -/
  append : ∀ xs ys, collapse (xs ++ ys) = collapse xs ++
    if (collapse ys).head?.map key.text = xs.getLast?.map key.text then (collapse ys).tail
    else collapse ys

lemma collapsesRuns_dropRepeats (key : UniqueKey) : CollapsesRuns key (dropRepeats key none) where
  runs xs := ⟨_, areRuns_iff.2 rfl, fun _ h => (areRuns_iff.1 h).symm⟩
  firsts _ _ h := h.map_some_dropRepeats fun _ _ r _ => (Option.some_ne_none (key.text r)).symm
  sublist := dropRepeats_sublist key none
  apart := isChain_dropRepeats key
  survives xs _ hr := exists_mem_dropRepeats key hr
  idempotent xs := by
    rw [dropRepeats_eq_destutter, dropRepeats_eq_destutter, List.destutter_idem]
  append xs ys := by
    rw [dropRepeats_append, lastText_none, dropRepeats_eq_ite key (xs.getLast?.map key.text)]

/-- A word for a key collapses the runs of every list. -/
theorem uniqueBy_collapsesRuns {word : String} {key : UniqueKey}
    (h : UniqueKey.parse word = .ok key) :
    ∃ collapse, (∀ xs, uniqueBy word xs = .ok (collapse xs)) ∧ CollapsesRuns key collapse := by
  refine ⟨dropRepeats key none, fun xs => ?_, collapsesRuns_dropRepeats key⟩
  rw [uniqueBy, h]
  rfl

/-- Both keys, one of them with white space around it. -/
theorem uniqueBy_collapsesRuns_words :
    (∃ collapse, (∀ xs, uniqueBy "address" xs = .ok (collapse xs)) ∧
      CollapsesRuns .address collapse) ∧
    ∃ collapse, (∀ xs, uniqueBy " NAME\t" xs = .ok (collapse xs)) ∧
      CollapsesRuns .name collapse :=
  ⟨uniqueBy_collapsesRuns (by decide +kernel), uniqueBy_collapsesRuns (by decide +kernel)⟩

end HostAddr
