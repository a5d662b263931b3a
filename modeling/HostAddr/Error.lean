import HostAddr.Address.Text

/-!
# Causes of failure

Every operation on addresses and records that can fail does so with one of the causes below, and
`Error.message` is the wording of each.
-/

namespace HostAddr

/-- The written forms of an address that a reader may be asked for. -/
inductive AddressForm where
  | ipv4
  | ipv6
  | ip
  | unix
  | any
deriving DecidableEq, Repr

def AddressForm.name : AddressForm → String
  | ipv4 => "IPv4"
  | ipv6 => "IPv6"
  | ip => "IP"
  | unix => "UNIX"
  | any => "socket address"

inductive Error where
  /-- The input is no address of the form asked for. -/
  | malformedAddress (input : String) (form : AddressForm)
  | unknownSelector (text : String)
  | unknownFlag (text : String)
  | unknownType (text : String)
  | unknownUniqueKey (text : String)
  | unknownSortKey (text : String)
  | unknownAttribute (name : String)
  | malformedRfcNumber (text : String)
  | malformedMaskSize (text : String)
  | maskSizeOutOfBounds (size : Nat) (address : SocketAddress)
  | malformedRegex (pattern : String)
  /-- No networks are on record for the RFC. -/
  | unknownRfc (number : Nat)
  /-- A list of `length` records cannot be entered `offset` records in. -/
  | offsetOutOfRange (offset : Int) (length : Nat)
  | host (context : String)
  /-- The sort gave up on a comparison that is no order of the list. This is no answer of the
  program, which ends here. -/
  | sortPanic
deriving DecidableEq

def Error.message : Error → String
  | malformedAddress input form => s!"unable to parse {quote input} as {form.name}"
  | unknownSelector text => s!"invalid selector {quote text}"
  | unknownFlag text => s!"unsupported flag {quote text}"
  | unknownType text => s!"unsupported type {quote text}"
  | unknownUniqueKey text => s!"unsupported unique constraint {quote text}"
  | unknownSortKey text => s!"unsupported sort key {quote text}"
  | unknownAttribute name => s!"unsupported attribute name {quote name}"
  | malformedRfcNumber text => s!"unable to parse RFC number {quote text}"
  | malformedMaskSize text => s!"unable to parse mask size {quote text}"
  | maskSizeOutOfBounds size address =>
    s!"mask size {size} out of bounds for {address.kind.name} address {address.text}"
  | malformedRegex pattern => s!"invalid regular expression {quote pattern}"
  | unknownRfc number => s!"unsupported RFC {number}"
  | offsetOutOfRange offset length => s!"unable to seek {offset} entries into a list of {length}"
  | host context => context
  | sortPanic => "user-provided comparison function does not correctly implement a total order"

theorem map_eq_ok_iff {ε α β : Type} {f : α → β} {x : Except ε α} {b : β} :
    x.map f = .ok b ↔ ∃ a, x = .ok a ∧ f a = b := by
  cases x <;> simp [Except.map]

end HostAddr
