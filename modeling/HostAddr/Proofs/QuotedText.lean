import HostAddr.Proofs.ItemReading
import HostAddr.Proofs.NodeRuns
import HostAddr.Runtime
import HostAddr.Template.Render

/-!
# Strings in templates

A string in quotation marks, or between backquotes if it holds none, is one token whatever else it
holds. Alone in an action of a template it adds one node to the tree, in the same place for every
string, and its characters to the output.
-/

namespace HostAddr

/-- A string between backquotes, with every character as it stands. -/
def rawQuoted (s : String) : List Char :=
  '\x60' :: (s.toList ++ ['\x60'])

/-- A mark and the characters after it that are read as one string, with whatever follows them
left over. -/
structure IsLiteral (mark : Char) (cs : List Char) (s : String) : Prop where
  mark_mem : mark ∈ ['"', '\x60']
  token : ∀ rest, Scan.token mark (cs ++ rest) = .ok (.str s, rest)

lemma isLiteral_quoted (s : String) :
    IsLiteral '"' (s.toList.flatMap sourceEscape ++ ['"']) s where
  mark_mem := List.mem_cons_self
  token rest := by
    rw [List.append_assoc, List.singleton_append, Scan.token, Scan.quoted_flatMap_sourceEscape]
    show Except.ok (Token.str (String.ofList s.toList), rest) = _
    rw [String.ofList_toList]

lemma isLiteral_raw {s : String} (hs : '\x60' ∉ s.toList) :
    IsLiteral '\x60' (s.toList ++ ['\x60']) s where
  mark_mem := List.mem_cons_of_mem _ List.mem_cons_self
  token rest := by
    rw [List.append_assoc, List.singleton_append, Scan.token, cutFirst?_append hs]
    dsimp only
    rw [String.ofList_toList]

/-- A literal in braces between two texts. -/
def embedded (t : String) (literal : List Char) (u : String) : String :=
  t ++ "\x7b\x7b" ++ String.ofList literal ++ "\x7d\x7d" ++ u

/-- A text is a node unless it is empty. -/
def textNode (t : String) : List Node :=
  if t = "" then [] else [.text t]

/-- Two texts and an action between them whose value is a string. -/
def nodesAround (t s u : String) : List Node :=
  textNode t ++ .action ⟨[], false, .mk (.value (.str s)) []⟩ :: textNode u

lemma parse_textItem (t s u : String) :
    Node.parse (textItem t.toList ++ .action [.str s] :: textItem u.toList) =
      .ok (nodesAround t s u) := by
  have hitem (t : String) : textItem t.toList = if t = "" then [] else [.text t] := by
    simp [textItem]
  rw [hitem, hitem, nodesAround, textNode, textNode]
  by_cases ht : t = "" <;> by_cases hu : u = "" <;> simp only [ht, hu, if_true, if_false] <;> rfl

namespace IsLiteral

variable {mark : Char} {cs : List Char} {s : String}

lemma startsToken (h : IsLiteral mark cs s) (rest : List Char) : Scan.StartsToken mark rest := by
  rcases List.mem_pair.1 h.mark_mem with rfl | rfl
  · exact ⟨by decide, by decide, by decide, by simp⟩
  · exact ⟨by decide, by decide, by decide, by simp⟩

/-- Between braces that touch it, a literal is the whole action. -/
lemma action_braces (h : IsLiteral mark cs s) (rest : List Char) :
    Scan.action (mark :: cs ++ '\x7d' :: '\x7d' :: rest) = .ok ⟨some [.str s], false, rest⟩ := by
  have hstarts := h.startsToken (cs ++ '\x7d' :: '\x7d' :: rest)
  have hclose : Scan.tokens ('\x7d' :: '\x7d' :: rest) = .ok ⟨some [], false, rest⟩ :=
    Scan.tokens_of_close rfl
  rw [List.cons_append, Scan.action_eq_tokens hstarts.trimStart hstarts,
    Scan.tokens_of_token hstarts.trimStart hstarts (h.token _), hclose]
  rfl

lemma opensWithTrim (h : IsLiteral mark cs s) (rest : List Char) :
    Scan.opensWithTrim (mark :: cs ++ rest) = false := by
  rcases List.mem_pair.1 h.mark_mem with rfl | rfl
  · rfl
  · rfl

/-- A literal in braces adds one item, and reading goes on behind it. -/
theorem items_append (h : IsLiteral mark cs s) {before : List Char}
    (hbefore : ¬['\x7b', '\x7b'] <:+: before) (hlast : before.getLast? ≠ some '\x7b')
    (after : List Char) :
    Scan.items false (before ++ '\x7b' :: '\x7b' :: (mark :: cs ++ '\x7d' :: '\x7d' :: after)) =
      (Scan.items false after).map fun items =>
        textItem before ++ .action [.str s] :: items := by
  rw [Scan.items_of_cut (Scan.cutAt?_braces hbefore hlast _), h.opensWithTrim, if_neg (by decide),
    h.action_braces, ok_bind]
  simp [Scan.textItems_eq, keptText]

theorem parse_embedded (h : IsLiteral mark cs s) {t u : String}
    (ht : ¬['\x7b', '\x7b'] <:+: t.toList) (hlast : t.toList.getLast? ≠ some '\x7b')
    (hu : ¬['\x7b', '\x7b'] <:+: u.toList) :
    Template.parse (embedded t (mark :: cs) u) =
      .ok ⟨embedded t (mark :: cs) u, nodesAround t s u⟩ := by
  have hsource : (embedded t (mark :: cs) u).toList =
      t.toList ++ '\x7b' :: '\x7b' :: (mark :: cs ++ '\x7d' :: '\x7d' :: u.toList) := by
    simp [embedded]
  have hitems : Item.scan (embedded t (mark :: cs) u) =
      .ok (textItem t.toList ++ .action [.str s] :: textItem u.toList) := by
    rw [Item.scan, hsource, h.items_append ht hlast, Scan.items_of_none (cutAt?_eq_none hu)]
    rfl
  rw [Template.parse, hitems, ok_bind, parse_textItem]

end IsLiteral

lemma nodes_textNode (h : Host) (dot : Value) (vars : Vars) (t : String) :
    Eval.nodes h dot vars (textNode t) = .ok (t, vars) := by
  rw [textNode]
  split
  · rename_i ht
    rw [ht]
    rfl
  · rw [Eval.nodes_cons, Eval.node]
    simp [Eval.nodes, Except.map]

theorem run_nodesAround (h : Host) (dot : Value) (t s u : String) :
    Template.run h dot (nodesAround t s u) = .ok (t ++ s ++ u) := by
  have hrest (vars : Vars) : Eval.nodes h dot vars
      (.action ⟨[], false, .mk (.value (.str s)) []⟩ :: textNode u) = .ok (s ++ u, vars) := by
    have haction : Eval.node h dot vars (.action ⟨[], false, .mk (.value (.str s)) []⟩) =
        .ok (s, vars) := rfl
    rw [Eval.nodes_cons, haction, ok_bind]
    dsimp only
    rw [nodes_textNode]
    rfl
  rw [Template.run, nodesAround, Eval.nodes_append, nodes_textNode, ok_bind]
  dsimp only
  rw [hrest, String.append_assoc]
  rfl

lemma render_of_parse {t : Template} {s : String} (ht : Template.parse s = .ok t) {h : Host}
    {rs : List Record} (hrs : h.allInterfaces = .ok rs) {out : String}
    (hout : Template.run h (.records rs) t.nodes = .ok out) : render h s = .ok out := by
  rw [render, ht]
  dsimp only
  rw [hrs]
  dsimp only
  rw [Template.execute, hout]

/-- A string in quotation marks, and one without backquotes between backquotes, is one node of the
template around it and stands in the output as it is, whatever it holds. -/
theorem render_literal {t u : String} (ht : ¬['\x7b', '\x7b'] <:+: t.toList)
    (hlast : t.toList.getLast? ≠ some '\x7b') (hu : ¬['\x7b', '\x7b'] <:+: u.toList) {h : Host}
    {rs : List Record} (hrs : h.allInterfaces = .ok rs) (s : String) :
    (Template.parse (embedded t (sourceQuoted s) u) =
        .ok ⟨embedded t (sourceQuoted s) u, nodesAround t s u⟩ ∧
      render h (embedded t (sourceQuoted s) u) = .ok (t ++ s ++ u)) ∧
    ('\x60' ∉ s.toList →
      Template.parse (embedded t (rawQuoted s) u) =
          .ok ⟨embedded t (rawQuoted s) u, nodesAround t s u⟩ ∧
        render h (embedded t (rawQuoted s) u) = .ok (t ++ s ++ u)) := by
  have hrun := run_nodesAround h (.records rs) t s u
  refine ⟨?_, fun hs => ?_⟩
  · have hparse := (isLiteral_quoted s).parse_embedded ht hlast hu
    exact ⟨hparse, render_of_parse hparse hrs hrun⟩
  · have hparse := (isLiteral_raw hs).parse_embedded ht hlast hu
    exact ⟨hparse, render_of_parse hparse hrs hrun⟩

/-- Braces, a comment, a hyphen that trims and quotation marks in a string are none of the
template. -/
theorem render_literal_braces :
    let s := "\x7b\x7b/* \"x\" */\x7d\x7d\\\n -\x7d\x7d\x7b\x7bend\x7d\x7d\t"
    let t := "a \x7d\x7d\n"
    let u := "\x7d\x7d b"
    render .empty (embedded t (sourceQuoted s) u) = .ok (t ++ s ++ u) ∧
      render .empty (embedded t (rawQuoted s) u) = .ok (t ++ s ++ u) := by
  intro s t u
  obtain ⟨⟨-, hquoted⟩, hraw⟩ := render_literal (t := t) (u := u) (h := .empty)
    (by decide +kernel) (by decide +kernel) (by decide +kernel) rfl s
  exact ⟨hquoted, (hraw (by decide +kernel)).2⟩

end HostAddr
