import HostAddr.Proofs.SteeredRuns

/-!
# The variables of a template

Reading a template refuses every variable that is nowhere in sight, but lets an `else` part see
more than it has when it runs: the variables that the body before it declares and, after a range,
those of the header. The main statement says that these are the only variables a template can lack.
-/

namespace HostAddr

namespace Template

/-- The nodes of the template are read from some items. -/
def Readable (t : Template) : Prop :=
  ∃ items, Node.parse items = .ok t.nodes

/-- The blocks, bindings and lookups of a template. -/
def outline (t : Template) : List Node :=
  Node.listOutline t.nodes

lemma readable_of_parse {s : String} {t : Template} (h : parse s = .ok t) : t.Readable := by
  unfold parse at h
  split at h
  · rename_i nodes hnodes
    obtain ⟨items, -, hparse⟩ := bind_eq_ok_iff.1 hnodes
    cases h
    exact ⟨items, hparse⟩
  · cases h

lemma parse_eq_ok {s : String} {items : List Item} {nodes : List Node}
    (hscan : Item.scan s = .ok items) (hparse : Node.parse items = .ok nodes) :
    parse s = .ok ⟨s, nodes⟩ := by
  rw [parse, hscan, ok_bind, hparse]

lemma execute_eq_error_iff {t : Template} {h : Host} {dot : Value} {fault : EvalFault} :
    t.execute h dot = .error (.execute t.source fault) ↔ run h dot t.nodes = .error fault := by
  unfold execute
  split <;> simp_all

/-- Let the variables of a template that was read be in sight where it runs, so that no `else` part
uses one that only the body before it, or the header of its range, declares. Then neither the
template nor any other of its outline fails for want of a variable, whatever the host and the dot.
Otherwise some template of its outline always does. -/
theorem execute_variables {s : String} {t : Template} (ht : parse s = .ok t) :
    (Node.ListScoped .running ["$"] t.nodes →
      ∀ t' : Template, t'.Readable → t'.outline = t.outline →
        ∀ (h : Host) (dot : Value) (x : String),
          t'.execute h dot ≠ .error (.execute t'.source (.undefinedVariable x))) ∧
    (¬ Node.ListScoped .running ["$"] t.nodes →
      ∃ t' : Template, t'.Readable ∧ t'.outline = t.outline ∧
        ∃ x, ∀ (h : Host) (dot : Value),
          t'.execute h dot = .error (.execute t'.source (.undefinedVariable x))) := by
  constructor
  · rintro hscoped t' ⟨items, hitems⟩ houtline h dot x hfail
    have hregular := (Node.fits_of_parse hitems).1
    exact run_ne_undefinedVariable hregular ((Node.listScoped_congr houtline).2 hscoped) h dot x
      (execute_eq_error_iff.1 hfail)
  · intro hscoped
    obtain ⟨items, hitems⟩ := readable_of_parse ht
    obtain ⟨hregular, hreading⟩ := Node.fits_of_parse hitems
    obtain ⟨ms, x, houtline, hregular', hstuck⟩ := Eval.exists_stuck_nodes ["$"] _ hregular hscoped
    have hparse : Node.parse (Node.listItems ms) = .ok ms :=
      Node.parse_listItems hregular' ((Node.listScoped_congr houtline).2 hreading)
    refine ⟨⟨s, ms⟩, ⟨_, hparse⟩, houtline, x, fun h dot => execute_eq_error_iff.2 ?_⟩
    rw [run, hstuck h dot [("$", dot)] rfl]
    rfl

def braced (action : String) : String :=
  "\x7b\x7b" ++ action ++ "\x7d\x7d"

/-- An `else` part may use what was declared before its block. -/
theorem execute_variables_outer :
    ∃ t, parse (braced "$x := 1" ++ braced "if false" ++ braced "$y := $x" ++ braced "else" ++
        braced "$x" ++ braced "end") = .ok t ∧
      ∀ (h : Host) (dot : Value) (x : String),
        t.execute h dot ≠ .error (.execute t.source (.undefinedVariable x)) := by
  have hscan : Item.scan (braced "$x := 1" ++ braced "if false" ++ braced "$y := $x" ++
      braced "else" ++ braced "$x" ++ braced "end") =
      .ok [.action [.var "$x" [], .declare, .int 1], .action [.ident "if", .ident "false"],
        .action [.var "$y" [], .declare, .var "$x" []], .action [.ident "else"],
        .action [.var "$x" []], .action [.ident "end"]] := by decide +kernel
  have hparse := parse_eq_ok hscan rfl
  have hscoped : Node.ListScoped .running ["$"]
      [.action ⟨["$x"], false, .mk (.value (.int 1)) []⟩,
        .block .ifBlock ⟨[], false, .mk (.value (.bool false)) []⟩
          [.action ⟨["$y"], false, .mk (.value (.var "$x" [])) []⟩]
          [.action ⟨[], false, .mk (.value (.var "$x" [])) []⟩]] := by decide
  exact ⟨_, hparse, (execute_variables hparse).1 hscoped _ (readable_of_parse hparse) rfl⟩

/-- An `else` part that uses what the body before it declares is read, and always fails. -/
theorem exists_parse_execute_undefinedVariable :
    ∃ t, parse (braced "if false" ++ braced "$x := 1" ++ braced "else" ++ braced "$x" ++
        braced "end") = .ok t ∧
      ∀ (h : Host) (dot : Value),
        t.execute h dot = .error (.execute t.source (.undefinedVariable "$x")) := by
  have hscan : Item.scan (braced "if false" ++ braced "$x := 1" ++ braced "else" ++
      braced "$x" ++ braced "end") =
      .ok [.action [.ident "if", .ident "false"], .action [.var "$x" [], .declare, .int 1],
        .action [.ident "else"], .action [.var "$x" []], .action [.ident "end"]] := by
    decide +kernel
  exact ⟨_, parse_eq_ok hscan rfl, fun h dot => rfl⟩

end Template

end HostAddr
