import HostAddr.Proofs.Batches
import HostAddr.Proofs.MachineRows

/-!
# Framed output

With `-d`, each template is shown on a line and its output on the next, both numbered and quoted,
and a line of hyphens stands between two templates. Quoted text is one line, so what is printed is
cut into its lines again, and the templates and their outputs are the same wherever the lines are.
-/

namespace HostAddr

namespace CommandLine

lemma splitOn_unlines_of_isOneLine {ls : List String} (h : ∀ l ∈ ls, IsOneLine l) :
    (unlines ls).toList.splitOn '\n' = ls.map String.toList ++ [[]] := by
  rw [splitOn_unlines, flatMap_splitOn_eq h]

lemma length_lines_unlines {ls : List String} (h : ∀ l ∈ ls, IsOneLine l) :
    (lines (unlines ls).toList).length = ls.length := by
  unfold lines
  rw [splitOn_unlines_of_isOneLine h]
  simp

/-- Lines are told apart by the text that they make up. -/
lemma eq_of_unlines {ls ms : List String} (hl : ∀ l ∈ ls, IsOneLine l) (hm : ∀ m ∈ ms, IsOneLine m)
    (h : unlines ls = unlines ms) : ls = ms := by
  have hsplit := congrArg (fun s : String => s.toList.splitOn '\n') h
  simp only [splitOn_unlines_of_isOneLine hl, splitOn_unlines_of_isOneLine hm] at hsplit
  have hinjective : Function.Injective String.toList := fun _ _ => String.toList_injective
  apply List.map_injective_iff.2 hinjective
  exact List.append_cancel_right hsplit

/-- The frames of templates and their outputs, numbered from `i` on, and the lines between them. -/
def frames (i : Nat) (pairs : List (String × String)) : List String :=
  ["---"].intercalate ((pairs.zipIdx i).map fun ((template, output), i) => framed i template output)

variable {i : Nat} {p q : String × String} {ps qs : List (String × String)}

lemma frames_singleton : frames i [p] = framed i p.1 p.2 := by
  simp [frames]

lemma frames_cons_cons :
    frames i (p :: q :: ps) = framed i p.1 p.2 ++ "---" :: frames (i + 1) (q :: ps) := by
  simp [frames, List.intercalate_cons_cons]

lemma length_frames (i : Nat) (ps : List (String × String)) :
    (frames i ps).length = 3 * ps.length - 1 := by
  induction ps generalizing i with
  | nil => rfl
  | cons p ps ih =>
    cases ps with
    | nil => rw [frames_singleton]; rfl
    | cons q ps =>
      rw [frames_cons_cons, List.length_append, List.length_cons, ih]
      simp only [framed, List.length_cons, List.length_nil]
      omega

lemma isOneLine_framed (i : Nat) (template output : String) :
    ∀ l ∈ framed i template output, IsOneLine l := by
  have hline (mark text : String) (hmark : IsOneLine mark) :
      IsOneLine ("[" ++ toString i ++ mark ++ quote text) := by
    simp only [isOneLine_append]
    exact ⟨⟨⟨by decide, isOneLine_toString i⟩, hmark⟩, isOneLine_quote text⟩
  intro l hl
  rcases List.mem_pair.1 hl with rfl | rfl
  · exact hline "] in: " template (by decide)
  · exact hline "] out: " output (by decide)

lemma isOneLine_frames (i : Nat) (ps : List (String × String)) :
    ∀ l ∈ frames i ps, IsOneLine l := by
  induction ps generalizing i with
  | nil => exact List.forall_mem_nil _
  | cons p ps ih =>
    cases ps with
    | nil =>
      rw [frames_singleton]
      exact isOneLine_framed i p.1 p.2
    | cons q ps =>
      rw [frames_cons_cons, List.forall_mem_append, List.forall_mem_cons]
      exact ⟨isOneLine_framed i p.1 p.2, by decide, ih (i + 1)⟩

/-- A frame shows its template and its output. -/
lemma eq_of_framed (h : framed i p.1 p.2 = framed i q.1 q.2) : p = q := by
  unfold framed at h
  obtain ⟨htemplate, htail⟩ := List.cons.inj h
  obtain ⟨houtput, -⟩ := List.cons.inj htail
  apply Prod.ext
  · exact quote_injective ((String.append_right_inj _).1 htemplate)
  · exact quote_injective ((String.append_right_inj _).1 houtput)

/-- The first frame is two lines, and the others start after the line of hyphens. -/
lemma take_frames_cons : (frames i (p :: ps)).take 2 = framed i p.1 p.2 := by
  cases ps with
  | nil => rw [frames_singleton]; rfl
  | cons q ps => rw [frames_cons_cons]; rfl

lemma drop_frames_cons : (frames i (p :: ps)).drop 3 = frames (i + 1) ps := by
  cases ps with
  | nil => rw [frames_singleton]; rfl
  | cons q ps => rw [frames_cons_cons]; rfl

/-- Frames of the same lines show the same templates and outputs. -/
theorem frames_injective (i : Nat) : Function.Injective (frames i) := by
  intro ps
  induction ps generalizing i with
  | nil =>
    intro qs h
    have hlength := congrArg List.length h
    rw [length_frames, length_frames, List.length_nil] at hlength
    exact (List.length_eq_zero_iff.1 (by omega)).symm
  | cons p ps ih =>
    intro qs h
    cases qs with
    | nil =>
      have hlength := congrArg List.length h
      rw [length_frames, length_frames, List.length_nil, List.length_cons] at hlength
      omega
    | cons q qs =>
      have hfirst := congrArg (List.take 2) h
      have hrest := congrArg (List.drop 3) h
      rw [take_frames_cons, take_frames_cons] at hfirst
      rw [drop_frames_cons, drop_frames_cons] at hrest
      rw [eq_of_framed hfirst, ih (i + 1) hrest]

/-- The command line evaluates templates with `-d` and without colours, and `pairs` are its
templates, each with its output. -/
def Evaluates (h : Host) (colour : Bool) (stdin : String) (words : List String)
    (pairs : List (String × String)) : Prop :=
  ∃ settings o templates, parse words = .ok (settings, .eval o templates) ∧ o.debug ∧
    (colour && !settings.noColour) = false ∧ readTemplates stdin templates = pairs.map Prod.fst ∧
    ∀ p ∈ pairs, render h p.1 = .ok p.2

lemma mapM_render {h : Host} {pairs : List (String × String)}
    (hpairs : ∀ p ∈ pairs, render h p.1 = .ok p.2) :
    (pairs.map Prod.fst).mapM (render h) = .ok (pairs.map Prod.snd) := by
  rw [mapM_eq_ok_iff, List.forall₂_map_left_iff, List.forall₂_map_right_iff, List.forall₂_same]
  exact hpairs

lemma evalLines_debug {o : EvalOptions} (hdebug : o.debug) (pairs : List (String × String)) :
    evalLines false o (pairs.map Prod.fst) (pairs.map Prod.snd) = frames 0 pairs := by
  rw [evalLines, if_pos hdebug, ← List.unzip_fst, ← List.unzip_snd, List.zip_unzip]
  rfl

variable {h : Host} {colour : Bool} {stdin : String} {words : List String}
  {pairs : List (String × String)}

/-- Templates that all evaluate are printed in frames. -/
theorem Evaluates.run_eq (heval : Evaluates h colour stdin words pairs) :
    (run h colour stdin words).code = 0 ∧
      (run h colour stdin words).stdout = unlines (frames 0 pairs) := by
  obtain ⟨settings, o, templates, hparse, hdebug, hcolour, htemplates, hpairs⟩ := heval
  have hresult : (Task.run h false stdin (.eval o templates)).result = .ok (frames 0 pairs) := by
    show (evalAll h 0 (readTemplates stdin templates)).result.map _ = _
    rw [(evalAll_eq_ok_iff h).2 (htemplates ▸ mapM_render hpairs), htemplates]
    exact congrArg Except.ok (evalLines_debug hdebug pairs)
  rw [run_of_parse hparse, hcolour]
  exact exit_of_ok hresult settings false

lemma parse_operands {templates : List String} (hne : templates ≠ []) :
    parse ("--no-color" :: "eval" :: "-d" :: "--" :: templates) =
      .ok (⟨0, 0, true⟩, .eval ⟨true, false⟩ templates) := by
  have hroot : read .root .empty none ("--no-color" :: "eval" :: "-d" :: "--" :: templates) =
      .ok (⟨[(.noColour, "")], []⟩, some (.eval, "-d" :: "--" :: templates)) := rfl
  have heval : read .eval .empty none ("-d" :: "--" :: templates) =
      .ok (⟨[(.debug, "")], templates⟩, none) := by
    have hrest : read .eval ⟨[(.debug, "")], []⟩ none ("--" :: templates) =
        .ok (templates.foldl Given.operand ⟨[(.debug, "")], []⟩, none) := by
      rw [read_cons]
      exact if_pos (.inr rfl)
    rw [foldl_operand] at hrest
    exact hrest
  have htask : Given.task? ⟨[(.debug, "")], templates⟩ .eval =
      some (.eval ⟨true, false⟩ templates) :=
    if_neg (mt List.isEmpty_iff.1 hne)
  unfold parse
  rw [descend_succ_eq_ok_iff]
  refine ⟨_, .inl ⟨_, _, hroot, ?_⟩⟩
  rw [descend_succ_eq_ok_iff]
  exact ⟨_, .inr ⟨heval, htask, rfl⟩⟩

/-- Any templates but a hyphen, which stands for standard input, are those of a command line. -/
lemma evaluates_operands (hne : pairs ≠ []) (hstdin : "-" ∉ pairs.map Prod.fst)
    (hpairs : ∀ p ∈ pairs, render h p.1 = .ok p.2) :
    Evaluates h colour stdin ("--no-color" :: "eval" :: "-d" :: "--" :: pairs.map Prod.fst)
      pairs := by
  refine ⟨_, _, _, parse_operands (mt List.map_eq_nil_iff.1 hne), rfl, Bool.and_false _, ?_, hpairs⟩
  exact readTemplates_eq_self stdin hstdin

/-- Templates that all evaluate are printed on three lines each, but for the last line of hyphens,
and what is printed tells the templates and their outputs, whatever characters they hold. -/
theorem framed_stdout :
    (∀ h colour stdin words pairs, Evaluates h colour stdin words pairs →
      (run h colour stdin words).code = 0 ∧
      (lines (run h colour stdin words).stdout.toList).length = 3 * pairs.length - 1) ∧
    ∀ h colour stdin words pairs h' colour' stdin' words' pairs',
      Evaluates h colour stdin words pairs → Evaluates h' colour' stdin' words' pairs' →
      (run h colour stdin words).stdout = (run h' colour' stdin' words').stdout →
      pairs = pairs' := by
  constructor
  · intro h colour stdin words pairs heval
    obtain ⟨hcode, hstdout⟩ := heval.run_eq
    refine ⟨hcode, ?_⟩
    rw [hstdout, length_lines_unlines (isOneLine_frames 0 pairs), length_frames]
  · intro h colour stdin words pairs h' colour' stdin' words' pairs' heval heval' hsame
    rw [heval.run_eq.2, heval'.run_eq.2] at hsame
    apply frames_injective 0
    exact eq_of_unlines (isOneLine_frames 0 pairs) (isOneLine_frames 0 pairs') hsame

/-- A template with a line of hyphens in it, given as an operand and from standard input. -/
theorem framed_stdout_hyphens :
    ∃ pairs pairs',
      Evaluates .empty true "" ["--no-color", "eval", "-d", "--", "a\n---", "b"] pairs ∧
      Evaluates .empty false "a\n---" ["eval", "-d", "-", "b"] pairs' ∧
      (run .empty false "a\n---" ["eval", "-d", "-", "b"]).code = 0 ∧
      (lines (run .empty false "a\n---" ["eval", "-d", "-", "b"]).stdout.toList).length = 5 ∧
      pairs = pairs' := by
  obtain ⟨hlines, hsame⟩ := framed_stdout
  let pairs := [("a\n---", "a\n---"), ("b", "b")]
  have hpairs : ∀ p ∈ pairs, render .empty p.1 = .ok p.2 := by decide +kernel
  have hoperands : Evaluates .empty true ""
      ["--no-color", "eval", "-d", "--", "a\n---", "b"] pairs :=
    evaluates_operands (by decide) (by decide) hpairs
  have hparse : parse ["eval", "-d", "-", "b"] =
      .ok (.default, .eval ⟨true, false⟩ ["-", "b"]) := by decide +kernel
  have hstdin : Evaluates .empty false "a\n---" ["eval", "-d", "-", "b"] pairs :=
    ⟨_, _, _, hparse, rfl, rfl, rfl, hpairs⟩
  obtain ⟨hcode, hlength⟩ := hlines _ _ _ _ _ hstdin
  exact ⟨pairs, pairs, hoperands, hstdin, hcode, hlength,
    hsame _ _ _ _ _ _ _ _ _ _ hoperands hstdin (by decide +kernel)⟩

end CommandLine

end HostAddr
