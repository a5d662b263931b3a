import HostAddr.Proofs.PipeReading

/-!
# Reading trees

The trees that are read from items are exactly the regular ones whose variables are in sight, where
an `else` part still sees the variables of the body before it; and such a tree is read from the
items it is written as. The open blocks of a reader carry the first half: what has been read of
each of them fits where it stands. For the second half, the items of a node add it to the innermost
list and leave the open blocks alone.
-/

namespace HostAddr

/-- Nodes that can be read where `scope` is in sight, and the variables in sight after them. -/
structure Node.ListFits (scope : Scope) (ns : List Node) (after : Scope) : Prop where
  regular : Node.ListRegular ns
  inSight : Node.ListScoped .reading scope ns
  scope_after : Node.listScopeAfter scope ns = after

namespace Node

lemma listFits_nil (scope : Scope) : ListFits scope [] scope :=
  ⟨trivial, trivial, rfl⟩

lemma ListFits.concat {scope mid : Scope} {ns : List Node} {n : Node}
    (hns : ListFits scope ns mid) (hregular : n.Regular) (hscoped : n.Scoped .reading mid) :
    ListFits scope (ns ++ [n]) (n.scopeAfter mid) := by
  obtain ⟨hr, hs, rfl⟩ := hns
  exact ⟨(listRegular_append _ _).2 ⟨hr, hregular, trivial⟩,
    (listScoped_append _ _ _ _).2 ⟨hs, hscoped, trivial⟩, by simp⟩

end Node

namespace Grammar

/-- What has been read of a block before the innermost list, where `entry` is in sight at the start
of that list. -/
structure OpenBlock.Fits (b : OpenBlock) (entry : Scope) : Prop where
  header : b.header.Fits (.header b.kind) b.scope
  body_none : b.body = none → entry = b.header.scopeAfter b.scope
  body_some : ∀ body, b.body = some body →
    Node.ListFits (b.header.scopeAfter b.scope) body entry

/-- Open blocks of which each fits where it stands, the innermost first. -/
inductive OpenBlock.Nested : List OpenBlock → Scope → Prop
  | nil : Nested [] ["$"]
  | cons {b : OpenBlock} {blocks : List OpenBlock} {outer entry : Scope} :
    Nested blocks outer → Node.ListFits outer b.before.reverse b.scope → b.Fits entry →
      Nested (b :: blocks) entry

lemma OpenBlock.Fits.node {b : OpenBlock} {entry after : Scope} {ns : List Node}
    (hb : b.Fits entry) (hns : Node.ListFits entry ns after) :
    (b.node ns).Regular ∧ (b.node ns).Scoped .reading b.scope ∧
      (b.node ns).scopeAfter b.scope = b.scope := by
  unfold OpenBlock.node
  split
  · rename_i body hbody
    obtain ⟨hr, hs, rfl⟩ := hb.body_some body hbody
    exact ⟨⟨hb.header.regular, hr, hns.regular⟩, ⟨hb.header.inSight, hs, hns.inSight⟩, rfl⟩
  · rename_i hbody
    obtain rfl := hb.body_none hbody
    exact ⟨⟨hb.header.regular, hns.regular, trivial⟩,
      ⟨hb.header.inSight, hns.inSight, trivial⟩, rfl⟩

namespace Reader

/-- The open blocks and the nodes of the innermost list fit. -/
def Fits (s : Reader) : Prop :=
  ∃ entry, OpenBlock.Nested s.blocks entry ∧ Node.ListFits entry s.nodes.reverse s.scope

lemma fits_start : Reader.start.Fits :=
  ⟨["$"], .nil, Node.listFits_nil _⟩

lemma fits_close {nodes : List Node} {blocks : List OpenBlock} {entry after : Scope} {s : Reader}
    (hblocks : OpenBlock.Nested blocks entry) (hnodes : Node.ListFits entry nodes.reverse after)
    (h : close nodes blocks = .ok s) : s.Fits := by
  induction blocks generalizing nodes entry after with
  | nil => cases h
  | cons b blocks ih =>
    cases hblocks with
    | cons houter hbefore hb =>
      obtain ⟨hregular, hscoped, hafter⟩ := hb.node hnodes
      have haround := hbefore.concat hregular hscoped
      rw [hafter, ← List.reverse_cons] at haround
      simp only [close] at h
      split at h
      · exact ih houter haround h
      · cases h
        exact ⟨_, houter, haround⟩

lemma Fits.openBlock {s s' : Reader} {kind : BlockKind} {chained : Bool} {tokens : List Token}
    (hs : s.Fits) (h : s.openBlock kind chained tokens = .ok s') : s'.Fits := by
  obtain ⟨entry, hblocks, hnodes⟩ := hs
  obtain ⟨⟨header, scope⟩, hheader, h⟩ := bind_eq_ok_iff.1 h
  obtain ⟨hfits, rfl⟩ := fits_of_pipeline hheader
  cases h
  exact ⟨header.scopeAfter s.scope, .cons hblocks hnodes ⟨hfits, fun _ => rfl, by simp⟩,
    Node.listFits_nil _⟩

lemma Fits.alternative {s s' : Reader} {tokens : List Token} (hs : s.Fits)
    (h : s.alternative tokens = .ok s') : s'.Fits := by
  obtain ⟨scope, nodes, blocks⟩ := s
  obtain ⟨entry, hblocks, hnodes⟩ := hs
  unfold Reader.alternative at h
  cases hblocks with
  | nil => cases h
  | @cons b blocks outer _ houter hbefore hb =>
    dsimp only at h hnodes
    split at h
    · cases h
    rename_i hbody
    have hnone : b.body = none := by simpa using hbody
    obtain rfl := hb.body_none hnone
    have helse : Fits ⟨scope, [], { b with body := some nodes.reverse } :: blocks⟩ := by
      refine ⟨scope, .cons houter hbefore ⟨hb.header, by simp, fun body hsome => ?_⟩,
        Node.listFits_nil _⟩
      cases hsome
      exact hnodes
    split at h
    · cases h
      exact helse
    · split at h
      · exact helse.openBlock h
      · cases h
    · cases h

lemma Fits.action {s s' : Reader} {tokens : List Token} (hs : s.Fits)
    (h : s.action tokens = .ok s') : s'.Fits := by
  obtain ⟨entry, hblocks, hnodes⟩ := id hs
  unfold Reader.action at h
  split at h
  case h_1 =>
    split at h
    · exact fits_close hblocks hnodes h
    · cases h
  case h_2 => exact hs.alternative h
  case h_3 => exact hs.openBlock h
  case h_4 => exact hs.openBlock h
  case h_5 => exact hs.openBlock h
  case h_11 =>
    obtain ⟨⟨p, scope⟩, hp, h⟩ := bind_eq_ok_iff.1 h
    obtain ⟨hfits, rfl⟩ := fits_of_pipeline hp
    cases h
    refine ⟨entry, hblocks, ?_⟩
    simpa using hnodes.concat (n := .action p) hfits.regular hfits.inSight
  all_goals cases h

/-- One item keeps everything fitting. -/
lemma Fits.step {s s' : Reader} {item : Item} (hs : s.Fits) (h : s.step item = .ok s') :
    s'.Fits := by
  cases item with
  | text t =>
    obtain ⟨entry, hblocks, hnodes⟩ := hs
    cases h
    refine ⟨entry, hblocks, ?_⟩
    simpa [Reader.push] using hnodes.concat (n := .text t) trivial trivial
  | action tokens => exact hs.action h

end Reader

end Grammar

/-- A tree that is read is regular, and its variables are in sight. -/
theorem Node.fits_of_parse {items : List Item} {ns : List Node} (h : Node.parse items = .ok ns) :
    Node.ListRegular ns ∧ Node.ListScoped .reading ["$"] ns := by
  obtain ⟨s, hs, h⟩ := bind_eq_ok_iff.1 h
  obtain ⟨entry, hblocks, hnodes⟩ : s.Fits :=
    foldlM_preserves Grammar.Reader.Fits (fun _ _ _ => Grammar.Reader.Fits.step)
      Grammar.Reader.fits_start hs
  unfold Grammar.Reader.finish at h
  cases hblocks' : s.blocks with
  | nil =>
    rw [hblocks'] at h hblocks
    cases h
    cases hblocks
    exact ⟨hnodes.regular, hnodes.inSight⟩
  | cons b blocks =>
    rw [hblocks'] at h
    cases h

namespace Grammar

/-! ### What fits is read -/

/-- An action that starts with none of the words is a pipeline. -/
lemma action_pipeline {s : Reader} {p : Pipeline} (h : p.Fits .command s.scope) :
    s.action p.tokens =
      .ok ⟨p.scopeAfter s.scope, .action p :: s.nodes, s.blocks⟩ := by
  have hwords := head_tokens_ne h
  have hread := pipeline_tokens h
  generalize p.tokens = tokens at hwords hread
  simp only [actionWords, List.mem_cons, List.not_mem_nil, or_false, forall_eq_or_imp,
    forall_eq] at hwords
  unfold Reader.action
  split <;> simp_all

lemma action_header {s : Reader} {kind : BlockKind} {header : Pipeline}
    (h : header.Fits (.header kind) s.scope) :
    s.action (.ident kind.keyword :: header.tokens) =
      .ok ⟨header.scopeAfter s.scope, [], ⟨kind, header, s.scope, s.nodes, none, false⟩ :: s.blocks⟩
    := by
  have hopen : s.action (.ident kind.keyword :: header.tokens) =
      s.openBlock kind false header.tokens := by cases kind <;> rfl
  rw [hopen, Reader.openBlock, pipeline_tokens h]
  rfl

mutual

/-- The items of a node add it to the innermost list. -/
theorem read_node (n : Node) (scope : Scope) (nodes : List Node) (blocks : List OpenBlock)
    (hr : n.Regular) (hs : n.Scoped .reading scope) :
    n.items.foldlM Reader.step ⟨scope, nodes, blocks⟩ =
      .ok ⟨n.scopeAfter scope, n :: nodes, blocks⟩ := by
  match n with
  | .text t => rfl
  | .action p =>
    have hfits : p.Fits .command scope := ⟨hr, hs⟩
    rw [Node.items, List.foldlM_cons, Reader.step,
      action_pipeline (s := ⟨scope, nodes, blocks⟩) hfits]
    rfl
  | .block kind header body otherwise =>
    obtain ⟨hrheader, hrbody, hrelse⟩ := hr
    obtain ⟨hsheader, hsbody, hselse⟩ := hs
    have hheader := action_header (s := ⟨scope, nodes, blocks⟩) ⟨hrheader, hsheader⟩
    have hbody := read_nodes body (header.scopeAfter scope) []
      (⟨kind, header, scope, nodes, none, false⟩ :: blocks) hrbody hsbody
    rw [Node.items, List.cons_append, List.cons_append, List.foldlM_cons, Reader.step, hheader,
      ok_bind, List.foldlM_append, List.foldlM_append, hbody, ok_bind]
    split
    · rename_i hempty
      obtain rfl : otherwise = [] := List.isEmpty_iff.1 hempty
      simp [Reader.step, Reader.action, Reader.close, OpenBlock.node, Node.scopeAfter]
    · have helse := read_nodes otherwise _ []
        (⟨kind, header, scope, nodes, some body, false⟩ :: blocks) hrelse hselse
      simp only [List.foldlM_cons, Reader.step, Reader.action, Reader.alternative,
        Option.isSome_none, Bool.false_eq_true, if_false, List.append_nil, List.reverse_reverse,
        ok_bind]
      rw [ElseRule.reading] at helse
      rw [helse]
      simp [Reader.close, OpenBlock.node, Node.scopeAfter]

theorem read_nodes (ns : List Node) (scope : Scope) (nodes : List Node)
    (blocks : List OpenBlock) (hr : Node.ListRegular ns) (hs : Node.ListScoped .reading scope ns) :
    (Node.listItems ns).foldlM Reader.step ⟨scope, nodes, blocks⟩ =
      .ok ⟨Node.listScopeAfter scope ns, ns.reverse ++ nodes, blocks⟩ := by
  match ns with
  | [] => rfl
  | n :: ns =>
    rw [Node.listItems, List.foldlM_append, read_node n scope nodes blocks hr.1 hs.1, ok_bind,
      read_nodes ns (n.scopeAfter scope) (n :: nodes) blocks hr.2 hs.2]
    simp

end

end Grammar

namespace Node

/-- A regular tree whose variables are in sight is read from the items it is written as. -/
theorem parse_listItems {ns : List Node} (hr : ListRegular ns)
    (hs : ListScoped .reading ["$"] ns) : Node.parse (listItems ns) = .ok ns := by
  rw [Node.parse, Grammar.Reader.start, Grammar.read_nodes ns _ _ _ hr hs]
  simp [Grammar.Reader.finish]

/-- Writing a tree that was read and reading it again gives the same tree. -/
theorem parse_listItems_of_parse {items : List Item} {ns : List Node}
    (h : Node.parse items = .ok ns) : Node.parse (listItems ns) = .ok ns := by
  obtain ⟨hregular, hscoped⟩ := fits_of_parse h
  exact parse_listItems hregular hscoped

/-- Blocks in blocks, a chained `else` and a bracketed pipe, read back from their own items. -/
theorem parse_listItems_nested :
    ∃ ns, parse [.text "a", .action [.ident "range", .var "$i" [], .comma, .var "$e" [], .declare,
        .field "Ifs" []], .action [.ident "if", .leftParen, .ident "eq", .var "$i" [], .int 1,
        .rightParen], .action [.var "$e" ["Name"], .pipe, .ident "print"], .action [.ident "else",
        .ident "if", .ident "true"], .action [.ident "end"], .action [.ident "else"], .text "b",
        .action [.ident "end"]] = .ok ns ∧ parse (listItems ns) = .ok ns := by
  have h : parse [.text "a", .action [.ident "range", .var "$i" [], .comma, .var "$e" [], .declare,
      .field "Ifs" []], .action [.ident "if", .leftParen, .ident "eq", .var "$i" [], .int 1,
      .rightParen], .action [.var "$e" ["Name"], .pipe, .ident "print"], .action [.ident "else",
      .ident "if", .ident "true"], .action [.ident "end"], .action [.ident "else"], .text "b",
      .action [.ident "end"]] = .ok _ := rfl
  exact ⟨_, h, parse_listItems_of_parse h⟩

end Node

end HostAddr
