import HostAddr.Proofs.AttributeNames
import HostAddr.Proofs.Invocations
import HostAddr.Runtime
import Mathlib.Data.List.Forall2

/-!
# Listings for machines

A listing for machines has a line for each row, the name of the attribute before a tab and its
value behind it. Names and values are text of one line, so that the rows are read back from the
listing, all but the path of a UNIX socket, which is listed as it stands.
-/

namespace HostAddr

/-- Text without a line feed. -/
def IsOneLine (s : String) : Prop :=
  '\n' ∉ s.toList

instance : DecidablePred IsOneLine :=
  fun _ => inferInstanceAs (Decidable (¬_))

lemma isOneLine_ofList {cs : List Char} : IsOneLine (String.ofList cs) ↔ '\n' ∉ cs := by
  rw [IsOneLine, String.toList_ofList]

lemma isOneLine_append {s t : String} : IsOneLine (s ++ t) ↔ IsOneLine s ∧ IsOneLine t := by
  rw [IsOneLine, String.toList_append, List.mem_append, not_or, IsOneLine, IsOneLine]

lemma isOneLine_toString (n : Nat) : IsOneLine (toString n) := by
  rw [IsOneLine, toList_toString]
  exact notMem_decimal (by decide) n

lemma newline_notMem_padded {b : Nat} (hb : 0 < b) (hb' : b ≤ 16) (n x : Nat) :
    '\n' ∉ padded b n x := by
  intro h
  obtain ⟨d, hd, hchar⟩ := List.mem_map.1 h
  have hmem : d.digitChar ∈ hexDigits :=
    digitChar_mem_hexDigits ((lt_of_mem_digits hb hd).trans_le hb')
  rw [hchar] at hmem
  exact absurd hmem (by decide)

lemma newline_notMem_codeEscape (c : Char) : '\n' ∉ codeEscape c := by
  rw [codeEscape, List.mem_append, List.mem_append, not_or, not_or]
  exact ⟨⟨by decide, notMem_toDigits (by decide) _⟩, by decide⟩

lemma newline_notMem_escapeChar {mark : Char} (hmark : mark ≠ '\n') (c : Char) :
    '\n' ∉ escapeChar mark c := by
  fun_cases escapeChar mark c with
  | case1 hc =>
    have hne : '\n' ≠ c := by
      rintro rfl
      exact hc.elim (fun h => hmark h.symm) (by decide)
    simp [hne]
  | case2 => decide
  | case3 => decide
  | case4 => decide
  | case5 => decide
  | case6 => exact newline_notMem_codeEscape c
  | case7 _ hc => simp [Ne.symm hc]

lemma isOneLine_quote (s : String) : IsOneLine (quote s) := by
  rw [quote, isOneLine_ofList, quoteChars, List.cons_append, List.mem_cons, List.mem_append,
    List.mem_flatMap, not_or, not_or]
  refine ⟨by decide, ?_, by decide⟩
  rintro ⟨c, -, hc⟩
  exact newline_notMem_escapeChar (by decide) c hc

lemma IsView.isOneLine {s : String} (h : IsView s) : IsOneLine s := by
  cases h with
  | address ha => exact SocketAddress.notMem_text ha rfl (by decide)
  | number n => exact isOneLine_toString n
  | numeral hb hb' hn x => exact isOneLine_ofList.2 (newline_notMem_padded hb hb' _ x)
  | octets hw a =>
    exact isOneLine_ofList.2 (notMem_intercalate (by decide)
      (List.forall_mem_map.2 fun n _ => notMem_decimal (by decide) n))

namespace SocketAddress

lemma isOneLine_kind (k : AddressKind) : IsOneLine k.name := by
  cases k <;> decide

lemma isOneLine_text (a : SocketAddress) : IsOneLine a.text := by
  cases a with
  | ipv4 _ | ipv6 _ => exact (IsView.address rfl).isOneLine
  | unix p => exact isOneLine_quote p.text

/-- Every attribute but the path is text of one line. -/
theorem isOneLine_view (a : SocketAddress) {name : String} (hname : name.toLower ≠ "path") :
    IsOneLine (a.view name) := by
  rw [view]
  split
  · exact isOneLine_kind a.kind
  · exact isOneLine_text a
  · cases hview : a.kindView? name.toLower with
    | none => exact List.not_mem_nil
    | some s => exact (isView_of_kindView? hname hview).isOneLine

end SocketAddress

namespace CommandLine

/-- The name and the value on a line of a listing for machines. -/
def readRow (line : List Char) : Option Row :=
  (cutFirst? '\t' line).map fun (name, value) => (String.ofList name, String.ofList value)

/-- What a listing for machines is read as: its lines, each of them cut at its first tab. -/
def readRows (listing : String) : List (Option Row) :=
  (listing.toList.splitOn '\n').dropLast.map readRow

/-- The line of a row in a listing for machines. -/
def rowLine (r : Row) : String :=
  r.1 ++ "\t" ++ r.2

lemma readRow_rowLine {r : Row} (hname : '\t' ∉ r.1.toList) :
    readRow (rowLine r).toList = some r := by
  rw [readRow, rowLine, String.toList_append, String.toList_append, List.append_assoc]
  show (cutFirst? '\t' (r.1.toList ++ '\t' :: r.2.toList)).map _ = some r
  rw [cutFirst?_append hname]
  simp

lemma toList_unlines (ls : List String) :
    (unlines ls).toList = ls.flatMap fun l => l.toList ++ ['\n'] := by
  simp [unlines, String.toList_join, List.flatMap_map]

lemma splitOn_unlines (ls : List String) :
    (unlines ls).toList.splitOn '\n' = ls.flatMap (·.toList.splitOn '\n') ++ [[]] := by
  rw [toList_unlines]
  induction ls with
  | nil => rfl
  | cons l ls ih =>
    rw [List.flatMap_cons, List.append_assoc, List.singleton_append, List.splitOn_append_cons_self,
      ih, List.flatMap_cons, List.append_assoc]

lemma length_splitOn_newline {s : String} (h : ¬IsOneLine s) :
    2 ≤ (s.toList.splitOn '\n').length := by
  obtain ⟨before, after, hsplit⟩ := List.append_of_mem (not_not.1 h)
  have hbefore := List.length_pos_iff.2 (List.splitOn_ne_nil '\n' before)
  have hafter := List.length_pos_iff.2 (List.splitOn_ne_nil '\n' after)
  rw [hsplit, List.splitOn_append_cons_self, List.length_append]
  omega

/-- Lines that hold a line feed come back as more lines than there were. -/
lemma length_flatMap_splitOn (ls : List String) :
    ls.length ≤ (ls.flatMap (·.toList.splitOn '\n')).length ∧
      ((ls.flatMap (·.toList.splitOn '\n')).length ≤ ls.length → ∀ l ∈ ls, IsOneLine l) := by
  induction ls with
  | nil => simp
  | cons l ls ih =>
    obtain ⟨hle, hall⟩ := ih
    have hpos := List.length_pos_iff.2 (List.splitOn_ne_nil '\n' l.toList)
    simp only [List.flatMap_cons, List.length_append, List.length_cons, List.forall_mem_cons]
    refine ⟨by omega, fun h => ⟨?_, hall (by omega)⟩⟩
    by_contra hl
    have htwo := length_splitOn_newline hl
    omega

lemma flatMap_splitOn_eq {ls : List String} (h : ∀ l ∈ ls, IsOneLine l) :
    ls.flatMap (·.toList.splitOn '\n') = ls.map String.toList := by
  rw [List.map_eq_flatMap]
  exact List.flatMap_congr fun l hl => List.splitOn_eq_singleton (h l hl)

/-- Rows are read back exactly when the line of each of them is one line. -/
theorem readRows_unlines {rs : List Row} (hname : ∀ r ∈ rs, '\t' ∉ r.1.toList) :
    readRows (unlines (rs.map rowLine)) = rs.map some ↔ ∀ r ∈ rs, IsOneLine (rowLine r) := by
  rw [readRows, splitOn_unlines, List.dropLast_concat]
  constructor
  · intro h
    have hlength := congrArg List.length h
    rw [List.length_map, List.length_map] at hlength
    have hlines := (length_flatMap_splitOn (rs.map rowLine)).2 (by rw [hlength, List.length_map])
    exact fun r hr => hlines _ (List.mem_map_of_mem hr)
  · intro h
    rw [flatMap_splitOn_eq (List.forall_mem_map.2 h), List.map_map, List.map_map]
    exact List.map_congr_left fun r hr => readRow_rowLine (hname r hr)

lemma attribute_chars {a : SocketAddress} :
    ∀ t ∈ a.attributes, '\t' ∉ t.toList ∧ IsOneLine t ∧ t.toLower = t := by
  cases a with
  | ipv4 _ | ipv6 _ | unix _ =>
    rw [SocketAddress.attributes]
    decide +kernel

lemma socketUse_chars (use : SocketUse) : '\t' ∉ use.name.toList ∧ IsOneLine use.name := by
  cases use <;> decide

lemma mem_rows {only : List String} {a : SocketAddress} {r : Row} :
    r ∈ rows only a ↔ (only.isEmpty || only.any (sameName · r.1)) = true ∧
      ((∃ t ∈ a.attributes, (t, a.view t) = r) ∨ ∃ use, endpointRow a use = r) := by
  have huse : ∀ use : SocketUse, use ∈ SocketUse.all := by
    intro use
    cases use <;> decide
  simp [rows, huse, and_comm, and_or_left]

lemma name_chars {only : List String} {a : SocketAddress} {r : Row} (h : r ∈ rows only a) :
    '\t' ∉ r.1.toList ∧ IsOneLine r.1 := by
  obtain ⟨-, ⟨t, ht, rfl⟩ | ⟨use, rfl⟩⟩ := mem_rows.1 h
  · obtain ⟨htab, hline, -⟩ := attribute_chars t ht
    exact ⟨htab, hline⟩
  · exact socketUse_chars use

lemma path_mem_attributes {a : SocketAddress} :
    "path" ∈ a.attributes ↔ ∃ p, a = .unix p := by
  cases a with
  | ipv4 _ | ipv6 _ | unix _ =>
    rw [SocketAddress.attributes]
    simp [Attribute.common, Attribute.ip, Attribute.ipv4, Attribute.ipv6, Attribute.unix]

/-- Whether the rows of the address show the path of a UNIX socket that holds a line feed. -/
def ShowsBrokenPath (only : List String) (a : SocketAddress) : Prop :=
  (only.isEmpty || only.any (sameName · "path")) = true ∧
    ∃ p, a = .unix p ∧ ¬IsOneLine p.text

/-- The path alone can be more than one line. -/
theorem forall_mem_rows_isOneLine_iff {only : List String} {a : SocketAddress} :
    (∀ r ∈ rows only a, IsOneLine r.2) ↔ ¬ShowsBrokenPath only a := by
  constructor
  · rintro h ⟨hshown, p, rfl, hp⟩
    have hview : (SocketAddress.unix p).view "path" = p.text :=
      SocketAddress.view_eq (by decide +kernel) rfl
    have hrow := mem_rows.2 ⟨hshown, .inl ⟨"path", path_mem_attributes.2 ⟨p, rfl⟩, rfl⟩⟩
    have hline := h _ hrow
    rw [hview] at hline
    exact hp hline
  · intro h r hr
    obtain ⟨hshown, ⟨t, ht, rfl⟩ | ⟨use, rfl⟩⟩ := mem_rows.1 hr
    · show IsOneLine (a.view t)
      obtain ⟨-, -, hlower⟩ := attribute_chars t ht
      by_cases hpath : t = "path"
      · subst hpath
        obtain ⟨p, rfl⟩ := path_mem_attributes.1 ht
        rw [SocketAddress.view_eq (by decide +kernel) rfl]
        exact not_not.1 fun hp => h ⟨hshown, p, rfl, hp⟩
      · exact a.isOneLine_view (by rwa [hlower])
    · exact isOneLine_append.2 ⟨isOneLine_append.2 ⟨isOneLine_quote _, by decide⟩,
        isOneLine_quote _⟩

/-- The rows of several addresses are read back exactly when no broken path is among them. -/
theorem readRows_flatMap_rows (only : List String) (as : List SocketAddress) :
    readRows (unlines ((as.flatMap (rows only)).map rowLine)) = (as.flatMap (rows only)).map some ↔
      ∀ a ∈ as, ¬ShowsBrokenPath only a := by
  have hname : ∀ r ∈ as.flatMap (rows only), '\t' ∉ r.1.toList ∧ IsOneLine r.1 := by
    intro r hr
    obtain ⟨a, -, hr⟩ := List.mem_flatMap.1 hr
    exact name_chars hr
  have hline : ∀ r ∈ as.flatMap (rows only), (IsOneLine (rowLine r) ↔ IsOneLine r.2) := by
    intro r hr
    rw [rowLine, isOneLine_append, isOneLine_append]
    exact ⟨fun hboth => hboth.2, fun hvalue => ⟨⟨(hname r hr).2, by decide⟩, hvalue⟩⟩
  rw [readRows_unlines fun r hr => (hname r hr).1, forall₂_congr hline, List.forall_mem_flatMap]
  exact forall₂_congr fun a _ => forall_mem_rows_isOneLine_iff

lemma dumpLines_machine {o : DumpOptions} (hmachine : o.machine) (hnames : ¬o.valuesOnly)
    (colour : Bool) (as : List SocketAddress) :
    dumpLines colour o as = (as.flatMap (rows o.only)).map rowLine := by
  rw [dumpLines, if_neg hnames, if_pos hmachine, List.flatMap_def]
  rfl

/-- A listing for machines is one line for each row, and the rows are read back from it, unless it
shows the path of a UNIX socket that holds a line feed: then they are not. -/
theorem readRows_stdout {words : List String} {settings : Settings} {o : DumpOptions}
    {inputs : List String} (hparse : parse words = .ok (settings, .dump o inputs))
    (hmachine : o.machine) (hnames : ¬o.valuesOnly) {h : Host} {colour : Bool} {stdin : String}
    (hcode : (run h colour stdin words).code = 0) :
    ∃ form as, wantedForm o.forms = .ok form ∧
      List.Forall₂ (fun input a => SocketAddress.parseAs form input = .ok a) inputs as ∧
      (run h colour stdin words).stdout = unlines ((as.flatMap (rows o.only)).map rowLine) ∧
      (readRows (run h colour stdin words).stdout = (as.flatMap (rows o.only)).map some ↔
        ∀ a ∈ as, ¬ShowsBrokenPath o.only a) := by
  rw [run_of_parse hparse, Task.run] at hcode ⊢
  generalize (colour && !settings.noColour) = colour at hcode ⊢
  rcases exists_ok_or_error (dump colour o inputs).result with ⟨ls, hls⟩ | ⟨e, he⟩
  · obtain ⟨form, as, hinputs, rfl⟩ := (dump_eq_ok_iff colour).1 hls
    obtain ⟨hform, -, has⟩ := dumpInputs_eq_ok_iff.1 hinputs
    have hparsed :
        List.Forall₂ (fun input a => SocketAddress.parseAs form input = .ok a) inputs as :=
      (mapM_eq_ok_iff.1 has).imp fun _ _ => mapError_eq_ok_iff.1
    have hstdout := (exit_of_ok hls settings colour).2
    rw [dumpLines_machine hmachine hnames] at hstdout
    exact ⟨form, as, hform, hparsed, hstdout, hstdout ▸ readRows_flatMap_rows o.only as⟩
  · rw [(exit_of_error he settings colour).1] at hcode
    exact absurd hcode e.code_ne_zero

/-- A tab in a path is part of the value. -/
theorem readRows_stdout_paths :
    readRows (run Host.empty false "" ["dump", "-H", "-o", "path", "/a\tb", "/c"]).stdout =
      [some ("path", "/a\tb"), some ("path", "/c")] := by
  have hparse : parse ["dump", "-H", "-o", "path", "/a\tb", "/c"] =
      .ok (.default, .dump ⟨true, false, [], ["path"]⟩ ["/a\tb", "/c"]) := by decide +kernel
  have hcode : (run Host.empty false "" ["dump", "-H", "-o", "path", "/a\tb", "/c"]).code = 0 := by
    decide +kernel
  obtain ⟨form, as, hform, has, -, hread⟩ := readRows_stdout hparse rfl Bool.false_ne_true hcode
  obtain rfl := Except.ok.inj hform
  have hpaths : as = [.unix ⟨"/a\tb", by decide⟩, .unix ⟨"/c", by decide⟩] := by
    have hread : ["/a\tb", "/c"].mapM (SocketAddress.parseAs .any) =
        .ok [.unix ⟨"/a\tb", by decide⟩, .unix ⟨"/c", by decide⟩] := by decide +kernel
    exact Except.ok.inj ((mapM_eq_ok_iff.2 has).symm.trans hread)
  subst hpaths
  refine (hread.2 ?_).trans (by decide +kernel)
  rintro a ha ⟨-, p, rfl, hp⟩
  simp only [List.mem_cons, SocketAddress.unix.injEq, List.not_mem_nil, or_false] at ha
  rcases ha with rfl | rfl <;> exact hp (by decide)

/-- A path with a line feed takes two lines, the second of which is no row. -/
theorem not_forall_readRows_stdout :
    ¬∀ (words : List String) (settings : Settings) (o : DumpOptions) (inputs : List String),
      parse words = .ok (settings, .dump o inputs) → o.machine → ¬o.valuesOnly →
      ∀ (h : Host) (colour : Bool) (stdin : String), (run h colour stdin words).code = 0 →
      ∀ (form : AddressForm) (as : List SocketAddress), wantedForm o.forms = .ok form →
        List.Forall₂ (fun input a => SocketAddress.parseAs form input = .ok a) inputs as →
        readRows (run h colour stdin words).stdout = (as.flatMap (rows o.only)).map some := by
  intro h
  have hread := h ["dump", "-H", "-u", "-o", "path", "a\nb"] .default
    ⟨true, false, [.unix], ["path"]⟩ ["a\nb"] (by decide +kernel) rfl Bool.false_ne_true Host.empty
    false "" (by decide +kernel) .unix [.unix ⟨"a\nb", by decide⟩] rfl
    (.cons (by decide +kernel) .nil)
  revert hread
  decide +kernel

end CommandLine

end HostAddr
