import HostAddr.Proofs.Outcome
import HostAddr.Template.Eval
import HostAddr.Template.Grammar
import HostAddr.Template.Scan

/-!
# Sources spelt out

Most sources are short for a pipeline: they start from all records, or from those of the default
interface, and take them through filters, a sort and an extract. A template may spell that
pipeline out instead, and comes to the same value or fails with the same error of the host or of
an operation on its records.
-/

namespace HostAddr

/-- The first address of the records that are piped in. -/
def firstAddressTokens : List Token :=
  [.pipe, .ident "limit", .int 1, .pipe, .ident "attr", .str "address"]

/-- All addresses of the records that are piped in. -/
def allAddressesTokens : List Token :=
  [.pipe, .ident "join", .str "address", .str " "]

/-- The IP addresses of the default interface in order, of which `select` takes those inside or
those outside the networks of RFC 6890. -/
def defaultTokens (select : String) : List Token :=
  [.ident "GetDefaultInterfaces", .pipe, .ident "include", .str "type", .str "ip", .pipe,
    .ident "sort", .str "type,size", .pipe, .ident select, .str "rfc", .str "6890"]

/-- The pipeline that a source is short for. -/
def Source.speltOut : Source → List Token
  | allInterfaces => [.ident "GetAllInterfaces"]
  | defaultInterfaces => [.ident "GetDefaultInterfaces"]
  | privateInterfaces => defaultTokens "include"
  | publicInterfaces => defaultTokens "exclude"
  | privateIP => defaultTokens "include" ++ firstAddressTokens
  | publicIP => defaultTokens "exclude" ++ firstAddressTokens
  | privateIPs => defaultTokens "include" ++ allAddressesTokens
  | publicIPs => defaultTokens "exclude" ++ allAddressesTokens

/-- The pipeline that `GetInterfaceIP` with a pattern is short for. -/
def interfaceIPSpeltOut (pattern : String) : List Token :=
  [.ident "GetAllInterfaces", .pipe, .ident "include", .str "name", .str pattern, .pipe,
    .ident "include", .str "type", .str "ip", .pipe, .ident "include", .str "flag",
    .str "forwardable", .pipe, .ident "sort", .str "type,size"] ++ firstAddressTokens

/-- A source followed by stages. -/
def Source.through (s : Source) (stages : List Call) : Pipe :=
  .mk (.call (.mk (.source s) [])) stages

def firstAddressStages : List Call :=
  [.mk .limit [.int 1], .mk .attr [.str "address"]]

def allAddressesStages : List Call :=
  [.mk .joinBy [.str "address", .str " "]]

def defaultStages (select : Function) : List Call :=
  [.mk .includeBy [.str "type", .str "ip"], .mk .sortBy [.str "type,size"],
    .mk select [.str "rfc", .str "6890"]]

def interfaceStages (pattern : String) : List Call :=
  [.mk .includeBy [.str "name", .str pattern], .mk .includeBy [.str "type", .str "ip"],
    .mk .includeBy [.str "flag", .str "forwardable"], .mk .sortBy [.str "type,size"]]

/-- The pipeline of `speltOut` as it is read. -/
def Source.speltPipe : Source → Pipe
  | allInterfaces => allInterfaces.through []
  | defaultInterfaces => defaultInterfaces.through []
  | privateInterfaces => defaultInterfaces.through (defaultStages .includeBy)
  | publicInterfaces => defaultInterfaces.through (defaultStages .excludeBy)
  | privateIP => defaultInterfaces.through (defaultStages .includeBy ++ firstAddressStages)
  | publicIP => defaultInterfaces.through (defaultStages .excludeBy ++ firstAddressStages)
  | privateIPs => defaultInterfaces.through (defaultStages .includeBy ++ allAddressesStages)
  | publicIPs => defaultInterfaces.through (defaultStages .excludeBy ++ allAddressesStages)

def interfaceIPSpeltPipe (pattern : String) : Pipe :=
  Source.allInterfaces.through (interfaceStages pattern ++ firstAddressStages)

section

variable {α β : Type}

lemma lift_bind (x : Except Error α) (f : α → Except Error β) :
    lift (x >>= f) = lift x >>= fun a => lift (f a) := by
  cases x <;> rfl

lemma lift_map (x : Except Error α) (f : α → β) :
    lift (x.map f) = lift x >>= fun a => .ok (f a) := by
  cases x <;> rfl

end

namespace Eval

variable {h : Host} {dot : Value} {vars : Vars}

/-- A stage that does to the records it is given what `op` does. -/
def Selects (h : Host) (dot : Value) (vars : Vars) (c : Call)
    (op : List Record → Except Error (List Record)) : Prop :=
  ∀ rs, call h dot vars [.records rs] c = lift ((op rs).map .records)

lemma selects_include (selector param : String) :
    Selects h dot vars (.mk .includeBy [.str selector, .str param])
      (HostAddr.includeBy h.engine selector param) :=
  fun _ => rfl

lemma selects_exclude (selector param : String) :
    Selects h dot vars (.mk .excludeBy [.str selector, .str param])
      (HostAddr.excludeBy h.engine selector param) :=
  fun _ => rfl

lemma selects_sort (spec : String) :
    Selects h dot vars (.mk .sortBy [.str spec]) (HostAddr.sortBy h.sorter spec) :=
  fun _ => rfl

lemma stages_cons {c : Call} {op : List Record → Except Error (List Record)}
    (hop : Selects h dot vars c op) (rs : List Record) (cs : List Call) :
    stages h dot vars (.records rs) (c :: cs) =
      lift (op rs) >>= fun rs => stages h dot vars (.records rs) cs := by
  rw [stages, hop rs, lift_map, bind_assoc]
  rfl

/-- The stages after a source that lists records. -/
lemma pipe_through {s : Source} {listed : Except Error (List Record)}
    (hs : s.ask h = listed.map .records) (cs : List Call) :
    pipe h dot vars (s.through cs) =
      lift listed >>= fun rs => stages h dot vars (.records rs) cs := by
  have hcall : command h dot vars (.call (.mk (.source s) [])) = lift (s.ask h) := rfl
  rw [Source.through, pipe, hcall, hs, lift_map, bind_assoc]
  rfl

lemma pipe_command (c : Command) : pipe h dot vars (.mk c []) = command h dot vars c := by
  rw [pipe]
  cases command h dot vars c <;> rfl

lemma pipe_source (s : Source) : pipe h dot vars (s.through []) = lift (s.ask h) :=
  pipe_command _

section

variable (selected : Except Error (List Record))

lemma stages_nil :
    (lift selected >>= fun rs => stages h dot vars (.records rs) []) =
      lift (selected.map .records) := by
  rw [lift_map]
  rfl

lemma call_attr (name : String) (rs : List Record) :
    call h dot vars [.records rs] (.mk .attr [.str name]) =
      lift (Attribute.ensureKnown name) >>= fun _ =>
        .ok (.str ((rs.head?.map (·.view name)).getD "")) :=
  rfl

lemma stages_firstAddress :
    (lift selected >>= fun rs => stages h dot vars (.records rs) firstAddressStages) =
      lift ((selected.map Host.firstAddress).map .str) := by
  have hname : Attribute.ensureKnown "address" = .ok () := by decide +kernel
  have hfirst : ∀ rs, stages h dot vars (.records rs) firstAddressStages =
      .ok (.str (Host.firstAddress rs)) := by
    intro rs
    have hlimit : call h dot vars [.records rs] (.mk .limit [.int 1]) =
        .ok (.records (rs.take 1)) :=
      rfl
    rw [firstAddressStages, stages, hlimit, ok_bind, stages, call_attr, hname]
    cases rs <;> rfl
  rw [lift_map, lift_map, bind_assoc]
  exact congrArg (lift selected >>= ·) (funext hfirst)

lemma stages_allAddresses :
    (lift selected >>= fun rs => stages h dot vars (.records rs) allAddressesStages) =
      lift ((selected >>= HostAddr.joinBy "address" " ").map .str) := by
  have hall : ∀ rs, stages h dot vars (.records rs) allAddressesStages =
      lift (HostAddr.joinBy "address" " " rs) >>= fun s => .ok (.str s) := by
    intro rs
    have hjoin : call h dot vars [.records rs] (.mk .joinBy [.str "address", .str " "]) =
        lift ((HostAddr.joinBy "address" " " rs).map .str) := rfl
    rw [allAddressesStages, stages, hjoin, lift_map, bind_assoc]
    rfl
  rw [lift_map, lift_bind, bind_assoc]
  exact congrArg (lift selected >>= ·) (funext hall)

end

end Eval

namespace Host

/-- The forwardable IP addresses of the interfaces whose name matches, in order. -/
def interfaceRecords (h : Host) (pattern : String) : Except Error (List Record) := do
  let named ← includeBy h.engine "name" pattern (← h.listing)
  let ips ← includeBy h.engine "type" "ip" named
  let forwardable ← includeBy h.engine "flag" "forwardable" ips
  sortBy h.sorter "type,size" forwardable

lemma interfaceIP_eq (h : Host) (pattern : String) :
    h.interfaceIP pattern = (h.interfaceRecords pattern).map firstAddress := by
  have hmap : ∀ x : Except Error (List Record),
      x.map firstAddress = x >>= fun rs => .ok (firstAddress rs) := fun x => by cases x <;> rfl
  rw [hmap, interfaceRecords, interfaceIP]
  simp only [bind_assoc]
  rfl

end Host

namespace Eval

variable {h : Host} {dot : Value} {vars : Vars}

lemma toString_privateRfc : toString Registry.privateRfc = "6890" := by
  decide +kernel

/-- The stages after the default interface, `select` among them. -/
lemma pipe_default {select : Function} {op : List Record → Except Error (List Record)}
    (hop : Selects h dot vars (.mk select [.str "rfc", .str "6890"]) op) (cs : List Call) :
    pipe h dot vars (Source.defaultInterfaces.through (defaultStages select ++ cs)) =
      lift (h.defaultIPs >>= op) >>= fun rs => stages h dot vars (.records rs) cs := by
  rw [pipe_through rfl, Host.defaultIPs]
  simp only [lift_bind, bind_assoc, defaultStages, List.cons_append, List.nil_append,
    stages_cons (selects_include _ _), stages_cons (selects_sort _), stages_cons hop]

lemma pipe_default_include (cs : List Call) :
    pipe h dot vars (Source.defaultInterfaces.through (defaultStages .includeBy ++ cs)) =
      lift h.privateInterfaces >>= fun rs => stages h dot vars (.records rs) cs := by
  rw [pipe_default (selects_include _ _), ← toString_privateRfc]
  rfl

lemma pipe_default_exclude (cs : List Call) :
    pipe h dot vars (Source.defaultInterfaces.through (defaultStages .excludeBy ++ cs)) =
      lift h.publicInterfaces >>= fun rs => stages h dot vars (.records rs) cs := by
  rw [pipe_default (selects_exclude _ _), ← toString_privateRfc]
  rfl

lemma pipe_interface (pattern : String) (cs : List Call) :
    pipe h dot vars (Source.allInterfaces.through (interfaceStages pattern ++ cs)) =
      lift (h.interfaceRecords pattern) >>= fun rs => stages h dot vars (.records rs) cs := by
  rw [pipe_through rfl, Host.interfaceRecords]
  simp only [lift_bind, bind_assoc, interfaceStages, List.cons_append, List.nil_append,
    stages_cons (selects_include _ _), stages_cons (selects_sort _)]
  rfl

lemma pipe_interfaceIP (pattern : String) :
    pipe h dot vars (.mk (.call (.mk .interfaceIP [.str pattern])) []) =
      lift ((h.interfaceIP pattern).map .str) :=
  pipe_command _

/-- The pipeline of a source does what the source asks of the host. -/
theorem pipe_speltPipe (s : Source) : pipe h dot vars s.speltPipe = lift (s.ask h) := by
  cases s with
  | allInterfaces => exact pipe_source _
  | defaultInterfaces => exact pipe_source _
  | privateInterfaces => exact (pipe_default_include []).trans (stages_nil _)
  | publicInterfaces => exact (pipe_default_exclude []).trans (stages_nil _)
  | privateIP => exact (pipe_default_include firstAddressStages).trans (stages_firstAddress _)
  | publicIP => exact (pipe_default_exclude firstAddressStages).trans (stages_firstAddress _)
  | privateIPs => exact (pipe_default_include allAddressesStages).trans (stages_allAddresses _)
  | publicIPs => exact (pipe_default_exclude allAddressesStages).trans (stages_allAddresses _)

theorem pipe_interfaceIPSpeltPipe (pattern : String) :
    pipe h dot vars (interfaceIPSpeltPipe pattern) =
      lift ((h.interfaceIP pattern).map .str) := by
  rw [interfaceIPSpeltPipe, pipe_interface, stages_firstAddress, Host.interfaceIP_eq]

end Eval

/-- A source and the pipeline that it is short for are both read wherever a pipeline may stand, and
they have the same outcome, values and errors alike, whatever the host, the dot and the variables.
It is the outcome of the operation on the host that the source names. -/
theorem Source.outcome_speltOut (place : PipelinePlace) (scope : Scope) :
    (∀ s : Source, ∃ short long, Grammar.pipe place scope [.ident s.name] = .ok short ∧
      Grammar.pipe place scope s.speltOut = .ok long ∧
      ∀ h dot vars, Eval.pipe h dot vars short = Eval.pipe h dot vars long ∧
        Eval.pipe h dot vars long = lift (s.ask h)) ∧
    ∀ pattern, ∃ short long,
      Grammar.pipe place scope [.ident "GetInterfaceIP", .str pattern] = .ok short ∧
      Grammar.pipe place scope (interfaceIPSpeltOut pattern) = .ok long ∧
      ∀ h dot vars, Eval.pipe h dot vars short = Eval.pipe h dot vars long ∧
        Eval.pipe h dot vars long = lift ((h.interfaceIP pattern).map .str) := by
  constructor
  · intro s
    refine ⟨s.through [], s.speltPipe, by cases s <;> rfl, by cases s <;> rfl,
      fun h dot vars => ?_⟩
    rw [Eval.pipe_source, Eval.pipe_speltPipe]
    exact ⟨rfl, rfl⟩
  · intro pattern
    refine ⟨_, interfaceIPSpeltPipe pattern, rfl, rfl, fun h dot vars => ?_⟩
    rw [Eval.pipe_interfaceIP, Eval.pipe_interfaceIPSpeltPipe]
    exact ⟨rfl, rfl⟩

example : Item.scan ("\x7b\x7bGetDefaultInterfaces | include `type` `ip` | sort `type,size` | " ++
    "exclude `rfc` `6890` | join `address` ` `\x7d\x7d") =
      .ok [.action Source.publicIPs.speltOut] := by
  decide +kernel

end HostAddr
