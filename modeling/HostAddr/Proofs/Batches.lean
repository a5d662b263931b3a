import HostAddr.Proofs.Invocations
import HostAddr.Runtime

/-!
# Several arguments at once

A task that takes its arguments one after another does for all of them what it does for each alone:
what is printed is printed in turn, and one argument that is refused is enough for nothing to be
printed.
-/

namespace HostAddr

namespace CommandLine

lemma unlines_append (ls ms : List String) : unlines (ls ++ ms) = unlines ls ++ unlines ms := by
  rw [unlines, List.map_append, String.join_append]
  rfl

/-- The exit code of an invocation with that result. -/
def exitCode : Except Failure (List String) → Nat
  | .ok _ => 0
  | .error e => e.code

lemma exitCode_eq_zero_iff {r : Except Failure (List String)} :
    exitCode r = 0 ↔ ∃ ls, r = .ok ls := by
  cases r with
  | ok ls => simp [exitCode]
  | error e => simp [exitCode, e.code_ne_zero]

lemma exitCode_map (f : List String → List String) (r : Except Failure (List String)) :
    exitCode (r.map f) = exitCode r := by
  cases r <;> rfl

lemma exit_code (o : Outcome) (s : Settings) (colour : Bool) :
    (o.exit s colour).code = exitCode o.result := by
  rw [Outcome.exit]
  cases o.result <;> rfl

/-- A result for a list of arguments that is put together from the results for its parts. The first
part that fails decides the exit code. -/
structure Distributes (F : List String → Except Failure (List String)) : Prop where
  ok_iff : ∀ xs ys ls, F (xs ++ ys) = .ok ls ↔ ∃ a b, F xs = .ok a ∧ F ys = .ok b ∧ a ++ b = ls
  exitCode_append : ∀ xs ys,
    exitCode (F (xs ++ ys)) = if exitCode (F xs) = 0 then exitCode (F ys) else exitCode (F xs)

/-- The first exit code that is not 0, if there is one. -/
def firstFailure (codes : List Nat) : Nat :=
  (codes.find? (· ≠ 0)).getD 0

lemma firstFailure_append (cs ds : List Nat) :
    firstFailure (cs ++ ds) = if firstFailure cs = 0 then firstFailure ds else firstFailure cs := by
  rw [firstFailure, firstFailure, firstFailure, List.find?_append]
  cases hcs : cs.find? (· ≠ 0) with
  | none => rfl
  | some c =>
    have hc : c ≠ 0 := by simpa using List.find?_some hcs
    simp [hc]

lemma firstFailure_singleton (c : Nat) : firstFailure [c] = c := by
  by_cases hc : c = 0
  · rw [hc]
    rfl
  · simp [firstFailure, hc]

lemma firstFailure_mem {cs : List Nat} {c : Nat} (hc : c ∈ cs) (hne : c ≠ 0) :
    firstFailure cs ∈ cs ∧ firstFailure cs ≠ 0 := by
  obtain ⟨d, hd⟩ : ∃ d, cs.find? (· ≠ 0) = some d := by
    rw [← Option.isSome_iff_exists, List.find?_isSome]
    exact ⟨c, hc, by simpa using hne⟩
  rw [firstFailure, hd]
  exact ⟨List.mem_of_find?_eq_some hd, by simpa using List.find?_some hd⟩

namespace Distributes

variable {F : List String → Except Failure (List String)}

/-- A result that fails with a message alone distributes when its output does. -/
theorem of_messages (hok : ∀ xs ys ls,
      F (xs ++ ys) = .ok ls ↔ ∃ a b, F xs = .ok a ∧ F ys = .ok b ∧ a ++ b = ls)
    (hmessage : ∀ xs e, F xs = .error e → e.code = 1) : Distributes F := by
  refine ⟨hok, fun xs ys => ?_⟩
  have hcode : ∀ zs, exitCode (F zs) ≠ 0 → exitCode (F zs) = 1 := by
    intro zs hzs
    cases hF : F zs with
    | ok ls => exact absurd (exitCode_eq_zero_iff.2 ⟨ls, hF⟩) hzs
    | error e => exact hmessage zs e hF
  have hboth : exitCode (F (xs ++ ys)) = 0 ↔ exitCode (F xs) = 0 ∧ exitCode (F ys) = 0 := by
    simp only [exitCode_eq_zero_iff, hok]
    constructor
    · rintro ⟨_, a, b, ha, hb, -⟩
      exact ⟨⟨a, ha⟩, b, hb⟩
    · rintro ⟨⟨a, ha⟩, b, hb⟩
      exact ⟨a ++ b, a, b, ha, hb, rfl⟩
  have hall := hcode (xs ++ ys)
  have hxs := hcode xs
  have hys := hcode ys
  split <;> omega

/-- Where each argument alone has a result, all of them have one, which is printed as theirs are
in turn. -/
theorem exists_ok (hF : Distributes F) (out : String → String) {xs : List String} (hne : xs ≠ [])
    (h : ∀ x ∈ xs, ∃ ls, F [x] = .ok ls ∧ unlines ls = out x) :
    ∃ ls, F xs = .ok ls ∧ unlines ls = String.join (xs.map out) := by
  induction xs with
  | nil => exact absurd rfl hne
  | cons x xs ih =>
    obtain ⟨a, ha, hprint⟩ := h x List.mem_cons_self
    cases xs with
    | nil => exact ⟨a, ha, hprint.trans (by simp)⟩
    | cons y ys =>
      obtain ⟨b, hb, hrest⟩ := ih (List.cons_ne_nil y ys)
        fun z hz => h z (List.mem_cons_of_mem x hz)
      refine ⟨a ++ b, (hF.ok_iff [x] (y :: ys) _).2 ⟨a, b, ha, hb, rfl⟩, ?_⟩
      rw [unlines_append, hprint, hrest]
      simp

/-- All arguments fail as the first of them does that fails alone. -/
theorem exitCode_eq (hF : Distributes F) {xs : List String} (hne : xs ≠ []) :
    exitCode (F xs) = firstFailure (xs.map fun x => exitCode (F [x])) := by
  induction xs with
  | nil => exact absurd rfl hne
  | cons x xs ih =>
    cases xs with
    | nil => exact (firstFailure_singleton _).symm
    | cons y ys =>
      have happend := hF.exitCode_append [x] (y :: ys)
      have hcodes := firstFailure_append [exitCode (F [x])]
        ((y :: ys).map fun x => exitCode (F [x]))
      rw [firstFailure_singleton, ← ih (List.cons_ne_nil y ys)] at hcodes
      exact happend.trans hcodes.symm

end Distributes

section Dump

variable {o : DumpOptions} (colour : Bool)

/-- The listing of addresses, for machines or of values alone, has nothing between them. -/
lemma dumpLines_append (h : o.machine ∨ o.valuesOnly) (as bs : List SocketAddress) :
    dumpLines colour o (as ++ bs) = dumpLines colour o as ++ dumpLines colour o bs := by
  rw [dumpLines, dumpLines, dumpLines]
  by_cases hvalues : o.valuesOnly
  · simp [hvalues]
  · simp [hvalues, h.resolve_right hvalues]

lemma code_of_dump {inputs : List String} {e : Failure}
    (h : (dump colour o inputs).result = .error e) : e.code = 1 := by
  rw [dump] at h
  cases hinputs : dumpInputs o inputs with
  | error text =>
    rw [hinputs] at h
    cases h
    rfl
  | ok found =>
    rw [hinputs] at h
    cases h

theorem distributes_dump (h : o.machine ∨ o.valuesOnly) :
    Distributes fun xs => (dump colour o xs).result := by
  refine .of_messages (fun xs ys ls => ?_) fun xs e => code_of_dump colour
  simp only [dump_eq_ok_iff, dumpInputs_eq_ok_iff, readAll]
  constructor
  · rintro ⟨form, _, ⟨hform, hnames, hall⟩, rfl⟩
    obtain ⟨as, bs, has, hbs, rfl⟩ := mapM_append_eq_ok_iff.1 hall
    exact ⟨_, _, ⟨form, as, ⟨hform, hnames, has⟩, rfl⟩, ⟨form, bs, ⟨hform, hnames, hbs⟩, rfl⟩,
      (dumpLines_append colour h as bs).symm⟩
  · rintro ⟨_, _, ⟨form, as, ⟨hform, hnames, has⟩, rfl⟩, ⟨form', bs, ⟨hform', -, hbs⟩, rfl⟩, rfl⟩
    obtain rfl := Except.ok.inj (hform.symm.trans hform')
    exact ⟨form, as ++ bs, ⟨hform, hnames, mapM_append_eq_ok_iff.2 ⟨as, bs, has, hbs, rfl⟩⟩,
      dumpLines_append colour h as bs⟩

end Dump

section Check

variable (colour : Bool) (rfc : Nat)

lemma rfcCheck_eq_ok_iff {inputs ls : List String} :
    (rfcCheck colour rfc inputs).result = .ok ls ↔
      ∃ as verdicts, readAll "check" .any inputs = .ok as ∧
        as.mapM (Registry.isIn rfc) = .ok verdicts ∧
        (verdicts.map fun
          | true => Style.affirmed.paint colour "true"
          | false => Style.denied.paint colour "false") = ls := by
  rw [rfcCheck, mapError_eq_ok_iff]
  constructor
  · intro h
    obtain ⟨as, has, h⟩ := bind_eq_ok_iff.1 h
    obtain ⟨verdicts, hverdicts, h⟩ := bind_eq_ok_iff.1 h
    exact ⟨as, verdicts, has, mapError_eq_ok_iff.1 hverdicts, Except.ok.inj h⟩
  · rintro ⟨as, verdicts, has, hverdicts, rfl⟩
    exact bind_eq_ok_iff.2 ⟨as, has,
      bind_eq_ok_iff.2 ⟨verdicts, mapError_eq_ok_iff.2 hverdicts, rfl⟩⟩

lemma code_of_rfcCheck {inputs : List String} {e : Failure}
    (h : (rfcCheck colour rfc inputs).result = .error e) : e.code = 1 := by
  obtain ⟨text, rfl⟩ := exists_of_mapError_eq_error h
  rfl

theorem distributes_rfcCheck : Distributes fun xs => (rfcCheck colour rfc xs).result := by
  refine .of_messages (fun xs ys ls => ?_) fun xs e => code_of_rfcCheck colour rfc
  simp only [rfcCheck_eq_ok_iff, readAll]
  constructor
  · rintro ⟨_, _, hall, hverdicts, rfl⟩
    obtain ⟨as, bs, has, hbs, rfl⟩ := mapM_append_eq_ok_iff.1 hall
    obtain ⟨us, vs, hus, hvs, rfl⟩ := mapM_append_eq_ok_iff.1 hverdicts
    exact ⟨_, _, ⟨as, us, has, hus, rfl⟩, ⟨bs, vs, hbs, hvs, rfl⟩, List.map_append.symm⟩
  · rintro ⟨_, _, ⟨as, us, has, hus, rfl⟩, ⟨bs, vs, hbs, hvs, rfl⟩, rfl⟩
    exact ⟨as ++ bs, us ++ vs, mapM_append_eq_ok_iff.2 ⟨as, bs, has, hbs, rfl⟩,
      mapM_append_eq_ok_iff.2 ⟨us, vs, hus, hvs, rfl⟩, List.map_append⟩

end Check

/-- The number of a template shows in messages alone. -/
lemma evalAll_eq_ok_iff (h : Host) {i : Nat} {ts outs : List String} :
    (evalAll h i ts).result = .ok outs ↔ ts.mapM (render h) = .ok outs := by
  induction ts generalizing i outs with
  | nil =>
    constructor
    · rintro ⟨⟩
      rfl
    · rintro ⟨⟩
      rfl
  | cons t ts ih =>
    rw [mapM_cons_eq_ok_iff, evalAll]
    cases render h t with
    | error e => simp
    | ok out =>
      simp only [map_eq_ok_iff, ih]
      simp

/-- A template fails with exit code 1 unless a sort in it panics. -/
lemma code_evalFailure (i : Nat) (t : String) (e : RenderError) :
    (evalFailure i t e).code = if e.library? = some .sortPanic then 101 else 1 := by
  unfold evalFailure
  split
  · rename_i hpanic
    rw [Failure.code, if_pos hpanic]
  · rename_i hpanic
    rw [Failure.code, if_neg hpanic]

/-- The exit code of a template alone. -/
def renderCode (h : Host) (t : String) : Nat :=
  match render h t with
  | .ok _ => 0
  | .error e => (evalFailure 0 t e).code

lemma exitCode_evalAll (h : Host) (i : Nat) (ts : List String) :
    exitCode (evalAll h i ts).result = firstFailure (ts.map (renderCode h)) := by
  induction ts generalizing i with
  | nil => rfl
  | cons t ts ih =>
    have hcodes := firstFailure_append [renderCode h t] (ts.map (renderCode h))
    rw [firstFailure_singleton, List.singleton_append] at hcodes
    rw [evalAll, List.map_cons, hcodes, renderCode]
    cases render h t with
    | error e =>
      rw [if_neg (evalFailure 0 t e).code_ne_zero]
      show (evalFailure i t e).code = (evalFailure 0 t e).code
      rw [code_evalFailure, code_evalFailure]
    | ok out =>
      rw [if_pos rfl, ← ih (i + 1)]
      exact exitCode_map (out :: ·) (evalAll h (i + 1) ts).result

theorem distributes_evalAll (h : Host) : Distributes fun ts => (evalAll h 0 ts).result := by
  refine ⟨fun ts us outs => ?_, fun ts us => ?_⟩
  · simp only [evalAll_eq_ok_iff]
    exact mapM_append_eq_ok_iff
  · simp only [exitCode_evalAll, List.map_append, firstFailure_append]

lemma readTemplates_eq_self (stdin : String) {ts : List String} (h : "-" ∉ ts) :
    readTemplates stdin ts = ts := by
  induction ts with
  | nil => rfl
  | cons t ts ih =>
    obtain ⟨ht, hts⟩ := not_or.1 (mt List.mem_cons.2 h)
    rw [readTemplates, ih hts]
    exact fun heq => ht heq.symm

lemma evalLines_eq_self {o : EvalOptions} (hdebug : ¬o.debug) (hjoined : ¬o.joined) (colour : Bool)
    (templates outputs : List String) : evalLines colour o templates outputs = outputs := by
  rw [evalLines, if_neg hdebug, if_neg hjoined]

/-- Whether the task prints what it has for one argument after another with nothing of its own.
Standard input is no argument. -/
def Task.IsBatch : Task → Prop
  | .dump o _ => o.machine ∨ o.valuesOnly
  | .eval o templates => ¬o.debug ∧ ¬o.joined ∧ "-" ∉ templates
  | .rfcList => False
  | .rfcCheck _ _ => True

lemma exists_distributes {task : Task} (hbatch : task.IsBatch) (h : Host) (colour : Bool)
    (stdin : String) :
    ∃ F, Distributes F ∧
      ∀ xs ⊆ task.arguments, ((task.on xs).run h colour stdin).result = F xs := by
  cases task with
  | dump o inputs => exact ⟨_, distributes_dump colour hbatch, fun xs _ => rfl⟩
  | rfcList => cases hbatch
  | rfcCheck rfc inputs => exact ⟨_, distributes_rfcCheck colour rfc, fun xs _ => rfl⟩
  | eval o templates =>
    obtain ⟨hdebug, hjoined, hstdin⟩ := hbatch
    refine ⟨_, distributes_evalAll h, fun xs hxs => ?_⟩
    show (evalAll h 0 (readTemplates stdin xs)).result.map
      (evalLines colour o (readTemplates stdin xs)) = (evalAll h 0 xs).result
    rw [readTemplates_eq_self stdin fun hx => hstdin (hxs hx)]
    cases (evalAll h 0 xs).result with
    | error e => rfl
    | ok outs => exact congrArg Except.ok (evalLines_eq_self hdebug hjoined colour xs outs)

lemma arguments_ne_nil {g : Given} {l : Level} {task : Task} (h : g.task? l = some task)
    (hbatch : task.IsBatch) : task.arguments ≠ [] := by
  cases l with
  | root | rfc => cases h
  | rfcList =>
    cases h
    exact hbatch.elim
  | dump | eval =>
    rw [Given.task?] at h
    split at h
    · cases h
    · rename_i hne
      cases h
      exact fun hnil => hne (List.isEmpty_iff.2 hnil)
  | rfcCheck =>
    rw [Given.task?] at h
    split at h
    · obtain ⟨rfc, -, rfl⟩ := Option.map_eq_some_iff.1 h
      exact List.cons_ne_nil _ _
    · cases h

lemma on_arguments (task : Task) : task.on task.arguments = task := by
  cases task <;> rfl

lemma stdout_of_code {h : Host} {colour : Bool} {stdin : String} {words : List String}
    (hcode : (run h colour stdin words).code ≠ 0) : (run h colour stdin words).stdout = "" := by
  cases hparse : parse words with
  | error stop =>
    rw [run, hparse] at hcode ⊢
    cases stop with
    | usage => rfl
    | help | version => exact absurd rfl hcode
  | ok parsed =>
    obtain ⟨settings, task⟩ := parsed
    rw [run_of_parse hparse] at hcode ⊢
    rcases exists_ok_or_error (task.run h (colour && !settings.noColour) stdin).result with
      ⟨output, hok⟩ | ⟨e, herror⟩
    · exact absurd (exit_of_ok hok _ _).1 hcode
    · exact (exit_of_error herror _ _).2

/-- The argument is a template with a sort that panics. -/
def Task.PanicsOn (h : Host) (task : Task) (x : String) : Prop :=
  ∃ o templates e, task = .eval o templates ∧ render h x = .error e ∧
    e.library? = some .sortPanic

lemma panicsOn_of_code {task : Task} (hbatch : task.IsBatch) {h : Host} {colour : Bool}
    {stdin x : String} (hx : x ∈ task.arguments)
    (hcode : exitCode ((task.on [x]).run h colour stdin).result = 101) : task.PanicsOn h x := by
  obtain ⟨e, he⟩ : ∃ e, ((task.on [x]).run h colour stdin).result = .error e := by
    rcases exists_ok_or_error ((task.on [x]).run h colour stdin).result with ⟨ls, hls⟩ | he
    · rw [hls] at hcode
      cases hcode
    · exact he
  rw [he] at hcode
  cases task with
  | dump o inputs => cases (code_of_dump colour he).symm.trans hcode
  | rfcList => cases hbatch
  | rfcCheck rfc inputs => cases (code_of_rfcCheck colour rfc he).symm.trans hcode
  | eval o templates =>
    obtain ⟨-, -, hstdin⟩ := hbatch
    have hone : readTemplates stdin [x] = [x] := readTemplates_eq_self stdin fun hmem =>
      hstdin (List.mem_singleton.1 hmem ▸ hx)
    have hresult : (evalAll h 0 [x]).result = .error e := by
      rw [← hone]
      exact map_eq_error_iff.1 he
    have hrender := exitCode_evalAll h 0 [x]
    rw [hresult, List.map_singleton, firstFailure_singleton, renderCode] at hrender
    split at hrender
    · cases hrender.symm.trans hcode
    · rename_i d hd
      refine ⟨o, templates, d, rfl, hd, ?_⟩
      rw [hrender, code_evalFailure] at hcode
      by_contra hpanic
      rw [if_neg hpanic] at hcode
      cases hcode

section Alone

variable {words : List String} {settings : Settings} {task : Task} {alone : String → List String}

/-- What each argument does alone and what they do together are values of one function. -/
lemma exists_distributes_run (hparse : parse words = .ok (settings, task)) (hbatch : task.IsBatch)
    (halone : ∀ x ∈ task.arguments, parse (alone x) = .ok (settings, task.on [x]))
    (h : Host) (colour : Bool) (stdin : String) :
    ∃ F : List String → Except Failure (List String), Distributes F ∧
      (run h colour stdin words).code = exitCode (F task.arguments) ∧
      (∀ ls, F task.arguments = .ok ls → (run h colour stdin words).stdout = unlines ls) ∧
      ∀ x ∈ task.arguments, (run h colour stdin (alone x)).code = exitCode (F [x]) ∧
        ∀ ls, F [x] = .ok ls → (run h colour stdin (alone x)).stdout = unlines ls := by
  obtain ⟨F, hF, hrun⟩ := exists_distributes hbatch h (colour && !settings.noColour) stdin
  have hall : (task.run h (colour && !settings.noColour) stdin).result = F task.arguments := by
    rw [← hrun _ (List.Subset.refl _), on_arguments]
  refine ⟨F, hF, ?_, fun ls hls => ?_, fun x hx => ?_⟩
  · rw [run_of_parse hparse, exit_code, hall]
  · rw [run_of_parse hparse]
    exact (exit_of_ok (hall.trans hls) _ _).2
  · have hone := hrun [x] (List.cons_subset.2 ⟨hx, List.nil_subset _⟩)
    rw [run_of_parse (halone x hx), exit_code, hone]
    exact ⟨rfl, fun ls hls => (exit_of_ok (hone.trans hls) _ _).2⟩

/-- All arguments fail with the exit code of the first of them that fails alone. -/
lemma code_eq_firstFailure (hparse : parse words = .ok (settings, task)) (hbatch : task.IsBatch)
    (halone : ∀ x ∈ task.arguments, parse (alone x) = .ok (settings, task.on [x]))
    (h : Host) (colour : Bool) (stdin : String) :
    (run h colour stdin words).code =
      firstFailure (task.arguments.map fun x => (run h colour stdin (alone x)).code) := by
  obtain ⟨g, l, htask⟩ := exists_task_of_descend hparse
  obtain ⟨F, hF, hcode, -, hone⟩ := exists_distributes_run hparse hbatch halone h colour stdin
  rw [hcode, hF.exitCode_eq (arguments_ne_nil htask hbatch),
    List.map_congr_left fun x hx => (hone x hx).1]

/-- Where each argument alone succeeds, what they print together is what they print in turn. -/
lemma stdout_eq_join (hparse : parse words = .ok (settings, task)) (hbatch : task.IsBatch)
    (halone : ∀ x ∈ task.arguments, parse (alone x) = .ok (settings, task.on [x]))
    {h : Host} {colour : Bool} {stdin : String}
    (hzero : ∀ x ∈ task.arguments, (run h colour stdin (alone x)).code = 0) :
    (run h colour stdin words).code = 0 ∧ (run h colour stdin words).stdout =
      String.join (task.arguments.map fun x => (run h colour stdin (alone x)).stdout) := by
  obtain ⟨g, l, htask⟩ := exists_task_of_descend hparse
  obtain ⟨F, hF, hcode, hstdout, hone⟩ :=
    exists_distributes_run hparse hbatch halone h colour stdin
  have hprint : ∀ x ∈ task.arguments,
      ∃ ls, F [x] = .ok ls ∧ unlines ls = (run h colour stdin (alone x)).stdout := by
    intro x hx
    obtain ⟨hxcode, hxstdout⟩ := hone x hx
    obtain ⟨ls, hls⟩ := exitCode_eq_zero_iff.1 (hxcode.symm.trans (hzero x hx))
    exact ⟨ls, hls, (hxstdout ls hls).symm⟩
  obtain ⟨ls, hls, hjoin⟩ := hF.exists_ok _ (arguments_ne_nil htask hbatch) hprint
  exact ⟨hcode.trans (exitCode_eq_zero_iff.2 ⟨ls, hls⟩), (hstdout ls hls).trans hjoin⟩

/-- An argument that fails alone fails with exit code 1 or is a template with a sort that
panics. -/
lemma code_alone (hbatch : task.IsBatch)
    (halone : ∀ x ∈ task.arguments, parse (alone x) = .ok (settings, task.on [x]))
    {h : Host} {colour : Bool} {stdin x : String} (hx : x ∈ task.arguments)
    (hne : (run h colour stdin (alone x)).code ≠ 0) :
    (run h colour stdin (alone x)).code = 1 ∨
      (run h colour stdin (alone x)).code = 101 ∧ task.PanicsOn h x := by
  rw [run_of_parse (halone x hx), exit_code] at hne ⊢
  obtain ⟨e, he⟩ := (exists_ok_or_error _).resolve_left fun hok => hne (exitCode_eq_zero_iff.2 hok)
  have hcode := congrArg exitCode he
  rcases e.code_eq with h1 | h101
  · exact .inl (hcode.trans h1)
  · exact .inr ⟨hcode.trans h101, panicsOn_of_code hbatch hx (hcode.trans h101)⟩

end Alone

end CommandLine

end HostAddr
