import HostAddr.Host
import HostAddr.Template.Fault
import HostAddr.Template.Format

/-!
# Calling functions

What every function of a template does with its arguments, the last of which may have come through
a pipeline. The number of the arguments is looked at first, then the kind of each in turn.
-/

namespace HostAddr

namespace Function

def noArg (f : Function) : List Value → Except EvalFault Unit
  | [] => .ok ()
  | vs => .error (.wrongCount f 0 vs.length)

def oneArg (f : Function) : List Value → Except EvalFault Value
  | [a] => .ok a
  | vs => .error (.wrongCount f 1 vs.length)

def twoArgs (f : Function) : List Value → Except EvalFault (Value × Value)
  | [a, b] => .ok (a, b)
  | vs => .error (.wrongCount f 2 vs.length)

def threeArgs (f : Function) : List Value → Except EvalFault (Value × Value × Value)
  | [a, b, c] => .ok (a, b, c)
  | vs => .error (.wrongCount f 3 vs.length)

def strArg (f : Function) (position : Nat) : Value → Except EvalFault String
  | .str s => .ok s
  | v => .error (.wrongKind f position .str v.kind)

def intArg (f : Function) (position : Nat) : Value → Except EvalFault Int
  | .int n => .ok n
  | v => .error (.wrongKind f position .int v.kind)

/-- The records at a position, where a single one counts as a list. -/
def recordsArg (f : Function) (position : Nat) : Value → Except EvalFault (List Record)
  | .records rs => .ok rs
  | .record r => .ok [r]
  | v => .error (.wrongKind f position .records v.kind)

end Function

/-- The outcome of an operation on records, as an outcome of the template. -/
def lift {α : Type} : Except Error α → Except EvalFault α
  | .ok a => .ok a
  | .error e => .error (.library e)

def Source.ask (h : Host) : Source → Except Error Value
  | allInterfaces => h.allInterfaces.map .records
  | defaultInterfaces => h.defaultInterfaces.map .records
  | privateInterfaces => h.privateInterfaces.map .records
  | publicInterfaces => h.publicInterfaces.map .records
  | privateIP => h.privateIP.map .str
  | publicIP => h.publicIP.map .str
  | privateIPs => h.privateIPs.map .str
  | publicIPs => h.publicIPs.map .str

namespace Value

/-- The order of two values of one kind, numbers or strings. Where only equality is asked for,
truth values and nothing can be held against their like as well. -/
def compareWith (equality : Bool) : Value → Value → Except EvalFault Ordering
  | int a, int b => .ok (compare a b)
  | str a, str b => .ok (compare a b)
  | bool a, bool b =>
    if equality then .ok (compare a.toNat b.toNat) else .error (.incomparable .bool)
  | nil, nil => if equality then .ok .eq else .error (.incomparable .nil)
  | a, b =>
    .error (if a.kind = b.kind then .incomparable a.kind else .mismatchedKinds a.kind b.kind)

def isEqual (a b : Value) : Except EvalFault Bool :=
  (compareWith true a b).map (· == .eq)

/-- Whether a value equals one of several, all of which it can be held against. -/
def equalsAny (a : Value) (bs : List Value) : Except EvalFault Bool :=
  (bs.mapM a.isEqual).map (·.any id)

/-- The record of a list or the octet of a string at an index. -/
def index (v key : Value) : Except EvalFault Value :=
  match key with
  | int i =>
    match v with
    | records rs =>
      match if i < 0 then none else rs[i.toNat]? with
      | some r => .ok (record r)
      | none => .error (.indexOutOfRange i)
    | str s =>
      match if i < 0 then none else s.toUTF8.toList[i.toNat]? with
      | some b => .ok (int b.toNat)
      | none => .error (.indexOutOfRange i)
    | v => .error (.notIndexable v.kind)
  | key => .error (.notAnIndex key.kind)

def length (v : Value) : Except EvalFault Value :=
  match v with
  | str s => .ok (int s.utf8ByteSize)
  | records rs => .ok (int rs.length)
  | v => .error (.noLength v.kind)

def field (name : String) : Value → Except EvalFault Value
  | record r =>
    match name with
    | "Name" => .ok (str r.interface.name)
    | "Index" => .ok (int r.interface.index)
    | "MTU" => .ok (int r.interface.mtu)
    | "Flags" => .ok (str r.interface.flags.text)
    | "HardwareAddr" => .ok (str r.interface.hardwareText)
    | "SockAddr" => .ok (str r.address.text)
    | _ => .error (.noField name .record)
  | nil => .error (.fieldOfNil name)
  | v => .error (.noField name v.kind)

def fieldChain (v : Value) (names : List String) : Except EvalFault Value :=
  names.foldlM (fun v name => v.field name) v

end Value

namespace Function

/-- An operation on one list of records under two strings. -/
def select (f : Function) (op : String → String → List Record → Except Error Value)
    (args : List Value) : Except EvalFault Value := do
  let (a, b, c) ← f.threeArgs args
  let s ← f.strArg 1 a
  let t ← f.strArg 2 b
  let rs ← f.recordsArg 3 c
  lift (op s t rs)

/-- An operation on one list of records under one string. -/
def selectOne (f : Function) (op : String → List Record → Except Error Value)
    (args : List Value) : Except EvalFault Value := do
  let (a, b) ← f.twoArgs args
  let s ← f.strArg 1 a
  let rs ← f.recordsArg 2 b
  lift (op s rs)

def orderTest (f : Function) (test : Ordering → Bool) (args : List Value) :
    Except EvalFault Value := do
  let (a, b) ← f.twoArgs args
  let o ← Value.compareWith false a b
  return .bool (test o)

def apply (h : Host) (f : Function) (args : List Value) : Except EvalFault Value :=
  match f with
  | source s => do
    f.noArg args
    lift (s.ask h)
  | interfaceIP => do
    let a ← f.oneArg args
    let pattern ← f.strArg 1 a
    lift ((h.interfaceIP pattern).map .str)
  | includeBy => f.select (fun s t rs => (HostAddr.includeBy h.engine s t rs).map .records) args
  | excludeBy => f.select (fun s t rs => (HostAddr.excludeBy h.engine s t rs).map .records) args
  | sortBy => f.selectOne (fun s rs => (HostAddr.sortBy h.sorter s rs).map .records) args
  | limit => do
    let (a, b) ← f.twoArgs args
    let n ← f.intArg 1 a
    if n < 0 then .error .negativeLimit
    else
      let rs ← f.recordsArg 2 b
      return .records (rs.take n.toNat)
  | offset => do
    let (a, b) ← f.twoArgs args
    let k ← f.intArg 1 a
    let rs ← f.recordsArg 2 b
    lift ((HostAddr.offset k rs).map .records)
  | reverse => do
    let a ← f.oneArg args
    let rs ← f.recordsArg 1 a
    return .records rs.reverse
  | uniqueBy => f.selectOne (fun s rs => (HostAddr.uniqueBy s rs).map .records) args
  | joinBy => f.select (fun s t rs => (HostAddr.joinBy s t rs).map .str) args
  | attr => do
    let (a, b) ← f.twoArgs args
    let name ← f.strArg 1 a
    lift (Attribute.ensureKnown name)
    let rs ← f.recordsArg 2 b
    return .str ((rs.head?.map (·.view name)).getD "")
  | and =>
    match args with
    | [] => .error (.tooFew f 1 0)
    | a :: rest => .ok (((a :: rest).find? (!·.isTrue)).getD ((a :: rest).getLastD a))
  | or =>
    match args with
    | [] => .error (.tooFew f 1 0)
    | a :: rest => .ok (((a :: rest).find? (·.isTrue)).getD ((a :: rest).getLastD a))
  | not => do
    let a ← f.oneArg args
    return .bool !a.isTrue
  | len => do
    let a ← f.oneArg args
    a.length
  | index =>
    match args with
    | [] => .error (.tooFew f 1 0)
    | a :: keys => keys.foldlM (fun v key => v.index key) a
  | eq =>
    match args with
    | a :: b :: rest => (a.equalsAny (b :: rest)).map .bool
    | args => .error (.tooFew f 2 args.length)
  | ne => do
    let (a, b) ← f.twoArgs args
    (a.isEqual b).map fun e => .bool !e
  | lt => f.orderTest (·.isLT) args
  | le => f.orderTest (·.isLE) args
  | gt => f.orderTest (·.isGT) args
  | ge => f.orderTest (·.isGE) args
  | print => .ok (.str (Value.concat args))
  | println => .ok (.str (" ".intercalate (args.map Value.text) ++ "\n"))
  | printf =>
    match args with
    | [] => .error (.tooFew f 1 0)
    | a :: rest => do
      let format ← f.strArg 1 a
      return .str (Value.format format rest)

end Function

end HostAddr
