import HostAddr.Proofs.Outcome
import HostAddr.Template.Grammar

/-!
# Chains of alternatives

Items that end every block they open, and no other, are read the same whatever blocks are open
around them. So the clauses of a chain of `else if` are read as if each had a block of its own in
the `else` part before it: their bodies do not know the difference, and the one `end` of the chain
ends as much as those of the blocks together.
-/

namespace HostAddr

/-- The number of blocks that are open after an item, where `depth` are open before it. An `end` or
an `else` needs one. -/
def Item.depth? (depth : Nat) : Item → Option Nat
  | .action (.ident "if" :: _) => some (depth + 1)
  | .action (.ident "with" :: _) => some (depth + 1)
  | .action (.ident "range" :: _) => some (depth + 1)
  | .action (.ident "else" :: _) => if depth = 0 then none else some depth
  | .action (.ident "end" :: _) => if depth = 0 then none else some (depth - 1)
  | _ => some depth

/-- The items end all blocks that they open, and `else` and `end` stand in none but these. -/
def Balanced (items : List Item) : Prop :=
  items.foldlM Item.depth? 0 = some 0

instance : DecidablePred Balanced :=
  fun _ => inferInstanceAs (Decidable (_ = _))

namespace Grammar

/-- Open blocks that are ended by as many ends as `depth`. A chained block has none of its own, so
it is not the outermost. -/
inductive OpenBlock.NeedEnds : List OpenBlock → Nat → Prop
  | nil : NeedEnds [] 0
  | plain {b : OpenBlock} {blocks : List OpenBlock} {depth : Nat} (hb : b.chained = false)
    (h : NeedEnds blocks depth) : NeedEnds (b :: blocks) (depth + 1)
  | chained {b : OpenBlock} {blocks : List OpenBlock} {depth : Nat} (hb : b.chained = true)
    (h : NeedEnds blocks (depth + 1)) : NeedEnds (b :: blocks) (depth + 1)

namespace Reader

/-- The reader with more blocks open around those that it has open. -/
def within (around : List OpenBlock) (s : Reader) : Reader :=
  { s with blocks := s.blocks ++ around }

@[simp] lemma within_nil (s : Reader) : s.within [] = s := by
  simp [within]

/-- What `f` does to a reader does not depend on the blocks around its own, and of its own it leaves
such as need `depth` ends. -/
structure Confined (f : Reader → Except SyntaxFault Reader) (s : Reader) (depth : Nat) : Prop where
  within : ∀ around, f (s.within around) = (f s).map (Reader.within around)
  needEnds : ∀ s', f s = .ok s' → OpenBlock.NeedEnds s'.blocks depth

section

variable {f g : Reader → Except SyntaxFault Reader} {s t : Reader} {depth : Nat}

lemma Confined.of_eq (hg : Confined g t depth)
    (h : ∀ around, f (s.within around) = g (t.within around)) : Confined f s depth := by
  have hs : f s = g t := by simpa using h []
  constructor
  · intro around
    rw [h, hs]
    exact hg.within around
  · intro s' hs'
    rw [hs] at hs'
    exact hg.needEnds s' hs'

lemma confined_of_ok (h : ∀ around, f (s.within around) = .ok (t.within around))
    (ht : OpenBlock.NeedEnds t.blocks depth) : Confined f s depth := by
  have hok : Confined Except.ok t depth := by
    constructor
    · intro around
      rfl
    · intro s' hs'
      cases hs'
      exact ht
  exact hok.of_eq h

lemma confined_of_error {e : SyntaxFault} (h : ∀ around, f (s.within around) = .error e) :
    Confined f s depth := by
  have herror : Confined (fun _ => .error e) s depth := by
    constructor
    · intro around
      rfl
    · intro s' hs'
      cases hs'
  exact herror.of_eq h

end

variable {s : Reader} {depth depth' : Nat}

lemma confined_close {blocks : List OpenBlock} (h : OpenBlock.NeedEnds blocks (depth + 1))
    (scope : Scope) (nodes : List Node) :
    Confined (fun s => close s.nodes s.blocks) ⟨scope, nodes, blocks⟩ depth := by
  induction blocks generalizing nodes with
  | nil => cases h
  | cons b blocks ih =>
    cases h with
    | plain hb h =>
      have hclose (around : List OpenBlock) : close nodes (b :: blocks ++ around) =
          .ok (within around ⟨b.scope, b.node nodes.reverse :: b.before, blocks⟩) := by
        simp [close, hb, within]
      exact confined_of_ok hclose h
    | chained hb h =>
      apply (ih h (b.node nodes.reverse :: b.before)).of_eq
      intro around
      simp [close, hb, within]

lemma confined_openBlock {kind : BlockKind} {chained : Bool} {tokens : List Token}
    (h : ∀ b : OpenBlock, b.chained = chained → OpenBlock.NeedEnds (b :: s.blocks) depth) :
    Confined (fun s => s.openBlock kind chained tokens) s depth := by
  cases hpipeline : pipeline (.header kind) s.scope tokens with
  | error e =>
    apply confined_of_error (e := e)
    intro around
    simp [openBlock, within, hpipeline]
  | ok r =>
    obtain ⟨header, scope⟩ := r
    apply confined_of_ok
      (t := ⟨scope, [], ⟨kind, header, s.scope, s.nodes, none, chained⟩ :: s.blocks⟩)
    · intro around
      simp [openBlock, within, hpipeline, pure, Except.pure]
    · exact h _ rfl

lemma confined_alternative {tokens : List Token}
    (hs : OpenBlock.NeedEnds s.blocks (depth + 1)) :
    Confined (fun s => s.alternative tokens) s (depth + 1) := by
  obtain ⟨scope, nodes, blocks⟩ := s
  cases blocks with
  | nil => cases hs
  | cons b blocks =>
    have helse : OpenBlock.NeedEnds ({ b with body := some nodes.reverse } :: blocks)
        (depth + 1) := by
      cases hs with
      | plain hb h => exact .plain hb h
      | chained hb h => exact .chained hb h
    by_cases hbody : b.body.isSome
    · apply confined_of_error (e := .secondElse b.kind)
      intro around
      simp [alternative, within, hbody]
    · cases tokens with
      | nil =>
        apply confined_of_ok (t := ⟨scope, [], { b with body := some nodes.reverse } :: blocks⟩)
        · intro around
          simp [alternative, within, hbody]
        · exact helse
      | cons t header =>
        cases t
        case ident word =>
          by_cases hchain : b.kind ≠ .rangeBlock ∧ word = b.kind.keyword
          · have hopen : Confined (fun s => s.openBlock b.kind true header)
                ⟨scope, [], { b with body := some nodes.reverse } :: blocks⟩ (depth + 1) := by
              apply confined_openBlock
              intro c hc
              exact .chained hc helse
            apply hopen.of_eq
            intro around
            simp [alternative, within, hbody, hchain]
          · apply confined_of_error (e := .tokensAfterElse b.kind)
            intro around
            simp [alternative, within, hbody, hchain]
        all_goals
          apply confined_of_error (e := .tokensAfterElse b.kind)
          intro around
          simp [alternative, within, hbody]

lemma confined_command {tokens : List Token} (hs : OpenBlock.NeedEnds s.blocks depth) :
    Confined (fun s => do
      let (p, scope) ← pipeline .command s.scope tokens
      return { s with scope, nodes := .action p :: s.nodes }) s depth := by
  cases hpipeline : pipeline .command s.scope tokens with
  | error e =>
    apply confined_of_error (e := e)
    intro around
    simp [within, hpipeline]
  | ok r =>
    obtain ⟨p, scope⟩ := r
    apply confined_of_ok (t := { s with scope, nodes := .action p :: s.nodes })
    · intro around
      simp [within, hpipeline, pure, Except.pure]
    · exact hs

lemma confined_action {tokens : List Token} (hs : OpenBlock.NeedEnds s.blocks depth)
    (hd : Item.depth? depth (.action tokens) = some depth') :
    Confined (fun s => s.action tokens) s depth' := by
  have hopen (kind : BlockKind) (rest : List Token) (hd : some (depth + 1) = some depth') :
      Confined (fun s => s.openBlock kind false rest) s depth' := by
    cases hd
    apply confined_openBlock
    intro b hb
    exact .plain hb hs
  unfold action
  split
  case h_1 rest =>
    have hd : (if depth = 0 then none else some (depth - 1)) = some depth' := hd
    cases depth with
    | zero => cases hd
    | succ depth =>
      cases hd
      by_cases hrest : rest = []
      · simp only [if_pos hrest]
        exact confined_close hs s.scope s.nodes
      · apply confined_of_error (e := .tokensAfterEnd)
        intro around
        exact if_neg hrest
  case h_2 rest =>
    have hd : (if depth = 0 then none else some depth) = some depth' := hd
    cases depth with
    | zero => cases hd
    | succ depth =>
      cases hd
      exact confined_alternative hs
  case h_3 => exact hopen .ifBlock _ hd
  case h_4 => exact hopen .withBlock _ hd
  case h_5 => exact hopen .rangeBlock _ hd
  case h_11 =>
    have hsame : Item.depth? depth (.action tokens) = some depth := by
      unfold Item.depth?
      split <;> simp_all
    cases hsame.symm.trans hd
    exact confined_command hs
  all_goals exact confined_of_error fun around => rfl

lemma confined_step {item : Item} (hs : OpenBlock.NeedEnds s.blocks depth)
    (hd : item.depth? depth = some depth') : Confined (fun s => s.step item) s depth' := by
  cases item with
  | text t =>
    cases hd
    exact confined_of_ok (t := s.push (.text t)) (fun around => rfl) hs
  | action tokens => exact confined_action hs hd

lemma confined_foldlM {items : List Item} (hs : OpenBlock.NeedEnds s.blocks depth)
    (hd : items.foldlM Item.depth? depth = some depth') :
    Confined (fun s => items.foldlM step s) s depth' := by
  induction items generalizing s depth with
  | nil =>
    cases hd
    exact confined_of_ok (fun around => rfl) hs
  | cons item items ih =>
    simp only [List.foldlM_cons, Option.bind_eq_bind, Option.bind_eq_some_iff] at hd
    obtain ⟨depth₁, hitem, hitems⟩ := hd
    have hstep := confined_step hs hitem
    have hread (around : List OpenBlock) : (item :: items).foldlM step (s.within around) =
        (s.step item).map (within around) >>= fun s => items.foldlM step s := by
      simp [hstep.within around]
    cases hs₁ : s.step item with
    | error e =>
      apply confined_of_error (e := e)
      intro around
      rw [hread, hs₁]
      rfl
    | ok s₁ =>
      apply (ih (hstep.needEnds s₁ hs₁) hitems).of_eq
      intro around
      rw [hread, hs₁]
      rfl

lemma exists_depth {item : Item} {s' : Reader} (hs : OpenBlock.NeedEnds s.blocks depth)
    (h : s.step item = .ok s') : ∃ depth', item.depth? depth = some depth' := by
  cases depth with
  | zero =>
    obtain ⟨scope, nodes, blocks⟩ := s
    cases hs
    unfold Item.depth?
    split
    case h_4 => cases h
    case h_5 rest =>
      by_cases hrest : rest = [] <;> simp [step, action, close, hrest] at h
    all_goals exact ⟨_, rfl⟩
  | succ depth =>
    unfold Item.depth?
    split <;> exact ⟨_, rfl⟩

lemma exists_depth_foldlM {items : List Item} {s' : Reader}
    (hs : OpenBlock.NeedEnds s.blocks depth) (h : items.foldlM step s = .ok s') :
    ∃ depth', items.foldlM Item.depth? depth = some depth' ∧
      OpenBlock.NeedEnds s'.blocks depth' := by
  induction items generalizing s depth with
  | nil =>
    cases h
    exact ⟨depth, rfl, hs⟩
  | cons item items ih =>
    rw [List.foldlM_cons, bind_eq_ok_iff] at h
    obtain ⟨s₁, hitem, hitems⟩ := h
    obtain ⟨depth₁, hdepth⟩ := exists_depth hs hitem
    have hs₁ := (confined_step hs hdepth).needEnds s₁ hitem
    simpa [hdepth] using ih hs₁ hitems

end Reader

end Grammar

/-- Balanced items are read to the same nodes and the same variables whatever blocks are open, and
these stay open. -/
theorem Balanced.exists_read {items : List Item} (h : Balanced items) (scope : Scope)
    (nodes : List Node) :
    ∃ r : Except SyntaxFault (Scope × List Node), ∀ blocks,
      items.foldlM Grammar.Reader.step ⟨scope, nodes, blocks⟩ =
        r.map fun t => ⟨t.1, t.2, blocks⟩ := by
  have hread := Grammar.Reader.confined_foldlM (s := ⟨scope, nodes, []⟩) .nil h
  refine ⟨(items.foldlM Grammar.Reader.step ⟨scope, nodes, []⟩).map fun s => (s.scope, s.nodes),
    fun blocks => ?_⟩
  have hblocks := hread.within blocks
  cases hs : items.foldlM Grammar.Reader.step ⟨scope, nodes, []⟩ with
  | error e =>
    simp only [hs] at hblocks
    exact hblocks
  | ok s =>
    have hclosed : s.blocks = [] := by
      cases hends : s.blocks with
      | nil => rfl
      | cons b blocks =>
        have hends' := hread.needEnds s hs
        rw [hends] at hends'
        cases hends'
    simp only [hs] at hblocks
    refine hblocks.trans ?_
    simp [Except.map, Grammar.Reader.within, hclosed]

/-- What can be read as a template is balanced. -/
theorem balanced_of_parse {items : List Item} {ns : List Node} (h : Node.parse items = .ok ns) :
    Balanced items := by
  rw [Node.parse, bind_eq_ok_iff] at h
  obtain ⟨s, hs, hfinish⟩ := h
  obtain ⟨depth, hdepth, hends⟩ := Grammar.Reader.exists_depth_foldlM .nil hs
  obtain ⟨scope, nodes, blocks⟩ := s
  cases hends with
  | nil => exact hdepth
  | plain => cases hfinish
  | chained => cases hfinish

/-! ### Chains and nests -/

/-- What stands after a keyword, and the items below it. -/
structure Clause where
  header : List Token
  body : List Item

/-- The last part of a block, with its end. -/
def elsePart (e : List Item) : List Item :=
  .action [.ident "else"] :: e ++ [.action [.ident "end"]]

namespace Clause

/-- The clause at the head of a block. -/
def opening (kind : BlockKind) (c : Clause) : List Item :=
  .action (.ident kind.keyword :: c.header) :: c.body

/-- The clause after the `else` of the clause before it. -/
def alternative (kind : BlockKind) (c : Clause) : List Item :=
  .action (.ident "else" :: .ident kind.keyword :: c.header) :: c.body

/-- The block of one clause. -/
def block (kind : BlockKind) (c : Clause) (e : List Item) : List Item :=
  c.opening kind ++ elsePart e

/-- One block of several clauses, with one end for all of them. -/
def chain (kind : BlockKind) (c : Clause) (cs : List Clause) (e : List Item) : List Item :=
  c.opening kind ++ (cs.flatMap (alternative kind) ++ elsePart e)

/-- A block for each clause, with an end of its own, that is all of the `else` part of the block
before it. -/
def nest (kind : BlockKind) (cs : List Clause) (e : List Item) : List Item :=
  cs.foldr (block kind) e

end Clause

lemma Item.depth?_succ {item : Item} {depth depth' : Nat} (h : item.depth? depth = some depth') :
    item.depth? (depth + 1) = some (depth' + 1) := by
  unfold Item.depth? at h ⊢
  split at h <;> simp_all
  omega

lemma depth_add {items : List Item} {depth depth' : Nat}
    (h : items.foldlM Item.depth? depth = some depth') :
    items.foldlM Item.depth? (depth + 1) = some (depth' + 1) := by
  induction items generalizing depth with
  | nil =>
    cases h
    rfl
  | cons item items ih =>
    simp only [List.foldlM_cons, Option.bind_eq_bind, Option.bind_eq_some_iff] at h ⊢
    obtain ⟨depth₁, hitem, hitems⟩ := h
    exact ⟨depth₁ + 1, Item.depth?_succ hitem, ih hitems⟩

lemma Balanced.block {kind : BlockKind} {c : Clause} {e : List Item} (hc : Balanced c.body)
    (he : Balanced e) : Balanced (c.block kind e) := by
  have hkeyword : Item.depth? 0 (.action (.ident kind.keyword :: c.header)) = some 1 := by
    cases kind <;> rfl
  have hbody : c.body.foldlM Item.depth? 1 = some 1 := depth_add hc
  have helse : e.foldlM Item.depth? 1 = some 1 := depth_add he
  rw [Balanced, Clause.block, Clause.opening, elsePart, List.cons_append, List.foldlM_cons,
    hkeyword]
  simp [hbody, helse, Item.depth?]

lemma balanced_nest {kind : BlockKind} {cs : List Clause} {e : List Item}
    (hcs : ∀ c ∈ cs, Balanced c.body) (he : Balanced e) : Balanced (Clause.nest kind cs e) := by
  induction cs with
  | nil => exact he
  | cons c cs ih =>
    obtain ⟨hc, hcs⟩ := List.forall_mem_cons.1 hcs
    exact hc.block (ih hcs)

namespace Grammar

variable {kind : BlockKind}

/-- The block at its `else`, where `nodes` are those of its body. -/
def OpenBlock.turn (b : OpenBlock) (nodes : List Node) : OpenBlock :=
  { b with body := some nodes.reverse }

namespace Reader

lemma read_opening (c : Clause) (s : Reader) :
    (c.opening kind).foldlM step s =
      s.openBlock kind false c.header >>= fun s => c.body.foldlM step s := by
  have hkeyword : s.step (.action (.ident kind.keyword :: c.header)) =
      s.openBlock kind false c.header := by
    cases kind <;> rfl
  rw [Clause.opening, List.foldlM_cons, hkeyword]

lemma read_alternative (hkind : kind ≠ .rangeBlock) {b : OpenBlock} (hb : b.body = none)
    (hk : b.kind = kind) (c : Clause) (scope : Scope) (nodes : List Node)
    (blocks : List OpenBlock) :
    (c.alternative kind).foldlM step ⟨scope, nodes, b :: blocks⟩ =
      openBlock ⟨scope, [], b.turn nodes :: blocks⟩ kind true c.header >>=
        fun s => c.body.foldlM step s := by
  have hkeyword : step ⟨scope, nodes, b :: blocks⟩
      (.action (.ident "else" :: .ident kind.keyword :: c.header)) =
        openBlock ⟨scope, [], b.turn nodes :: blocks⟩ kind true c.header := by
    subst hk
    simp [step, action, Reader.alternative, hb, hkind, OpenBlock.turn]
  rw [Clause.alternative, List.foldlM_cons, hkeyword]

lemma read_elsePart {b : OpenBlock} (hb : b.body = none) (e : List Item) (scope : Scope)
    (nodes : List Node) (blocks : List OpenBlock) :
    (elsePart e).foldlM step ⟨scope, nodes, b :: blocks⟩ =
      e.foldlM step ⟨scope, [], b.turn nodes :: blocks⟩ >>= fun s => close s.nodes s.blocks := by
  have helse : step ⟨scope, nodes, b :: blocks⟩ (.action [.ident "else"]) =
      .ok ⟨scope, [], b.turn nodes :: blocks⟩ := by
    have hbody : ¬ b.body.isSome := by simp [hb]
    exact if_neg hbody
  have hend (s : Reader) : s.step (.action [.ident "end"]) = close s.nodes s.blocks := rfl
  rw [elsePart, List.cons_append, List.foldlM_cons, helse, ok_bind, List.foldlM_append]
  simp [hend]

/-- Whether a block shares the end of the one around it matters to nothing that is read in it. -/
lemma exists_read_clause (kind : BlockKind) {c : Clause} (hc : Balanced c.body) (s : Reader) :
    ∃ r : Except SyntaxFault (Pipeline × Scope × List Node), ∀ chained,
      (s.openBlock kind chained c.header >>= fun s => c.body.foldlM step s) =
        r.map fun t =>
          ⟨t.2.1, t.2.2, ⟨kind, t.1, s.scope, s.nodes, none, chained⟩ :: s.blocks⟩ := by
  cases hheader : pipeline (.header kind) s.scope c.header with
  | error e =>
    refine ⟨.error e, fun chained => ?_⟩
    rw [openBlock, hheader]
    rfl
  | ok t =>
    obtain ⟨header, scope⟩ := t
    obtain ⟨r, hr⟩ := hc.exists_read scope []
    refine ⟨r.map fun t => ⟨header, t⟩, fun chained => ?_⟩
    have hbody := hr (⟨kind, header, s.scope, s.nodes, none, chained⟩ :: s.blocks)
    rw [openBlock, hheader]
    refine hbody.trans ?_
    cases r <;> rfl

lemma exists_read_elsePart {e : List Item} (he : Balanced e) (scope : Scope) :
    ∃ r : Except SyntaxFault (List Node), ∀ (b : OpenBlock) (nodes : List Node)
      (blocks : List OpenBlock), b.body = none →
      (elsePart e).foldlM step ⟨scope, nodes, b :: blocks⟩ =
        r >>= fun otherwise => close otherwise (b.turn nodes :: blocks) := by
  obtain ⟨r, hr⟩ := he.exists_read scope []
  refine ⟨r.map Prod.snd, fun b nodes blocks hb => ?_⟩
  rw [read_elsePart hb, hr]
  cases r <;> rfl

/-- A block is read to one node, and its variables are out of sight again. -/
lemma read_block (kind : BlockKind) {c : Clause} {e : List Item} (hc : Balanced c.body)
    (he : Balanced e) (s : Reader) :
    (∃ n, (c.block kind e).foldlM step s = .ok ⟨s.scope, n :: s.nodes, s.blocks⟩) ∨
      ∃ f, (c.block kind e).foldlM step s = .error f := by
  obtain ⟨r, hr⟩ := exists_read_clause kind hc s
  rw [Clause.block, List.foldlM_append, read_opening, hr]
  cases r with
  | error f => exact .inr ⟨f, rfl⟩
  | ok t =>
    obtain ⟨header, scope, nodes⟩ := t
    obtain ⟨r, hr⟩ := exists_read_elsePart he scope
    simp only [Except.map, ok_bind]
    rw [hr _ _ _ rfl]
    cases r with
    | error f => exact .inr ⟨f, rfl⟩
    | ok otherwise => exact .inl ⟨_, rfl⟩

/-- After an `else` with the keyword again, one end ends both blocks; after an `else` alone, each
has its own. -/
lemma read_alternative_elsePart (hkind : kind ≠ .rangeBlock) {c : Clause} {e : List Item}
    (hc : Balanced c.body) (he : Balanced e) {b : OpenBlock} (hb : b.body = none)
    (hk : b.kind = kind) (scope : Scope) (nodes : List Node) (blocks : List OpenBlock) :
    (c.alternative kind ++ elsePart e).foldlM step ⟨scope, nodes, b :: blocks⟩ =
      (elsePart (c.block kind e)).foldlM step ⟨scope, nodes, b :: blocks⟩ := by
  obtain ⟨r, hr⟩ := exists_read_clause kind hc ⟨scope, [], b.turn nodes :: blocks⟩
  rw [List.foldlM_append, read_alternative hkind hb hk, hr, read_elsePart hb, Clause.block,
    List.foldlM_append, read_opening, hr]
  cases r with
  | error f => rfl
  | ok t =>
    obtain ⟨header, scope₁, nodes₁⟩ := t
    obtain ⟨r, hr⟩ := exists_read_elsePart he scope₁
    simp only [Except.map, ok_bind]
    rw [hr _ _ _ rfl, hr _ _ _ rfl]
    cases r <;> rfl

/-- Behind the body of a clause, the further clauses of its block are read as a nest. -/
lemma read_alternatives (hkind : kind ≠ .rangeBlock) {cs : List Clause} {e : List Item}
    (hcs : ∀ c ∈ cs, Balanced c.body) (he : Balanced e) {b : OpenBlock} (hb : b.body = none)
    (hk : b.kind = kind) (scope : Scope) (nodes : List Node) (blocks : List OpenBlock) :
    (cs.flatMap (Clause.alternative kind) ++ elsePart e).foldlM step ⟨scope, nodes, b :: blocks⟩ =
      (elsePart (Clause.nest kind cs e)).foldlM step ⟨scope, nodes, b :: blocks⟩ := by
  induction cs generalizing b scope nodes blocks with
  | nil => rfl
  | cons c cs ih =>
    obtain ⟨hc, hcs⟩ := List.forall_mem_cons.1 hcs
    have hnest : Balanced (Clause.nest kind cs e) := balanced_nest hcs he
    obtain ⟨r, hr⟩ := exists_read_clause kind hc ⟨scope, [], b.turn nodes :: blocks⟩
    have hfirst : (c.alternative kind).foldlM step ⟨scope, nodes, b :: blocks⟩ =
        r.map fun t => ⟨t.2.1, t.2.2,
          ⟨kind, t.1, scope, [], none, true⟩ :: b.turn nodes :: blocks⟩ := by
      rw [read_alternative hkind hb hk, hr]
    calc
      _ = (c.alternative kind).foldlM step ⟨scope, nodes, b :: blocks⟩ >>= fun s =>
          (cs.flatMap (Clause.alternative kind) ++ elsePart e).foldlM step s := by
        rw [List.flatMap_cons, List.append_assoc, List.foldlM_append]
      _ = (c.alternative kind).foldlM step ⟨scope, nodes, b :: blocks⟩ >>= fun s =>
          (elsePart (Clause.nest kind cs e)).foldlM step s := by
        rw [hfirst]
        cases r with
        | error f => rfl
        | ok t => exact ih hcs rfl rfl _ _ _
      _ = (c.alternative kind ++ elsePart (Clause.nest kind cs e)).foldlM step
          ⟨scope, nodes, b :: blocks⟩ := by
        rw [List.foldlM_append]
      _ = _ := read_alternative_elsePart hkind hc hnest hb hk scope nodes blocks

lemma read_chain (hkind : kind ≠ .rangeBlock) {c : Clause} {cs : List Clause} {e : List Item}
    (hcs : ∀ c' ∈ c :: cs, Balanced c'.body) (he : Balanced e) (s : Reader) :
    (c.chain kind cs e).foldlM step s = (Clause.nest kind (c :: cs) e).foldlM step s := by
  obtain ⟨hc, hcs⟩ := List.forall_mem_cons.1 hcs
  obtain ⟨r, hr⟩ := exists_read_clause kind hc s
  rw [Clause.nest, List.foldr_cons, ← Clause.nest, Clause.block, Clause.chain,
    List.foldlM_append, List.foldlM_append, read_opening, hr]
  cases r with
  | error f => rfl
  | ok t => exact read_alternatives hkind hcs he rfl rfl _ _ _

end Reader

end Grammar

/-- A chain of clauses is read as the nest of their blocks, anywhere in a template: to the same
block, after which the variables in sight are those before it, or to the same fault. -/
theorem Node.parse_chain {kind : BlockKind} (hkind : kind ≠ .rangeBlock) {c : Clause}
    {cs : List Clause} {e : List Item} (hcs : ∀ c' ∈ c :: cs, Balanced c'.body)
    (he : Balanced e) :
    (∀ s : Grammar.Reader,
      (∃ n, (c.chain kind cs e).foldlM Grammar.Reader.step s =
          .ok ⟨s.scope, n :: s.nodes, s.blocks⟩ ∧
        (Clause.nest kind (c :: cs) e).foldlM Grammar.Reader.step s =
          .ok ⟨s.scope, n :: s.nodes, s.blocks⟩) ∨
      ∃ f, (c.chain kind cs e).foldlM Grammar.Reader.step s = .error f ∧
        (Clause.nest kind (c :: cs) e).foldlM Grammar.Reader.step s = .error f) ∧
    ∀ before after, Node.parse (before ++ c.chain kind cs e ++ after) =
      Node.parse (before ++ Clause.nest kind (c :: cs) e ++ after) := by
  have hread := Grammar.Reader.read_chain hkind hcs he
  constructor
  · intro s
    simp only [hread]
    obtain ⟨hc, hcs⟩ := List.forall_mem_cons.1 hcs
    rcases Grammar.Reader.read_block kind hc (balanced_nest hcs he) s with
      ⟨n, hn⟩ | ⟨f, hf⟩
    · exact .inl ⟨n, hn, hn⟩
    · exact .inr ⟨f, hf, hf⟩
  · intro before after
    simp only [Node.parse, List.foldlM_append]
    simp only [hread]

/-- A chain of three in a `range`, whose headers and bodies use what those before them declare. -/
theorem Node.parse_chain_declared :
    ∃ ns,
      Node.parse ([.action [.ident "range", .dot]] ++
        Clause.chain .withBlock ⟨[.var "$a" [], .declare, .field "Name" []],
            [.action [.var "$b" [], .declare, .var "$a" []]]⟩
          [⟨[.var "$c" [], .declare, .var "$b" []], [.text "c"]⟩,
            ⟨[.var "$a" []], [.action [.ident "if", .var "$c" []], .action [.ident "end"]]⟩]
          [.action [.var "$c" []]] ++
        [.action [.ident "end"]]) = .ok ns ∧
      Node.parse ([.action [.ident "range", .dot]] ++
        Clause.nest .withBlock
          [⟨[.var "$a" [], .declare, .field "Name" []],
            [.action [.var "$b" [], .declare, .var "$a" []]]⟩,
            ⟨[.var "$c" [], .declare, .var "$b" []], [.text "c"]⟩,
            ⟨[.var "$a" []], [.action [.ident "if", .var "$c" []], .action [.ident "end"]]⟩]
          [.action [.var "$c" []]] ++
        [.action [.ident "end"]]) = .ok ns := by
  refine ⟨_, rfl, ?_⟩
  rw [← (Node.parse_chain ?_ ?_ ?_).2]
  · rfl
  all_goals decide

end HostAddr
