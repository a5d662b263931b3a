import HostAddr.Template.Format
import Mathlib.Tactic.Common

/-!
# Formatted output

A format is a list of directives, and its output a list of pieces: what the format copies, the
operands in turn, each under its verb, and notices where verbs and operands do not come out even.
Every law of formatted output is one of the list of its pieces.
-/

namespace HostAddr

/-- What a format is made of. -/
inductive Directive where
  | text (c : Char)
  | percent
  | verb (c : Char)
  /-- A percent sign at the end of the format. -/
  | unpaired
deriving DecidableEq

namespace Directive

def source : Directive → List Char
  | text c => [c]
  | percent => ['%', '%']
  | verb c => ['%', c]
  | unpaired => ['%']

/-- The verb, if the directive asks for an operand. -/
def verb? : Directive → Option Char
  | verb c => some c
  | _ => none

/-- The verbs that ask for operands, in turn. -/
def verbs (ds : List Directive) : List Char :=
  ds.filterMap verb?

def read : List Char → List Directive
  | [] => []
  | ['%'] => [unpaired]
  | '%' :: '%' :: cs => percent :: read cs
  | '%' :: c :: cs => verb c :: read cs
  | c :: cs => text c :: read cs

lemma read_verb {c : Char} (hc : c ≠ '%') (cs : List Char) :
    read ('%' :: c :: cs) = verb c :: read cs := by
  rw [read]
  exact hc

lemma read_text {c : Char} (hc : c ≠ '%') (cs : List Char) :
    read (c :: cs) = text c :: read cs := by
  rw [read]
  all_goals simp [hc]

/-- Formats are built from the end, one directive at a time. -/
@[elab_as_elim]
theorem format_induction {motive : List Char → Prop} (cs : List Char) (nil : motive [])
    (unpaired : motive ['%']) (percent : ∀ cs, motive cs → motive ('%' :: '%' :: cs))
    (verb : ∀ c cs, c ≠ '%' → motive cs → motive ('%' :: c :: cs))
    (text : ∀ c cs, c ≠ '%' → motive cs → motive (c :: cs)) : motive cs := by
  fun_induction read cs with
  | case1 => exact nil
  | case2 => exact unpaired
  | case3 cs ih => exact percent cs ih
  | case4 c cs hc ih => exact verb c cs hc ih
  | case5 c cs hnil hpercent hverb ih =>
    have hc : c ≠ '%' := by
      rintro rfl
      cases cs with
      | nil => exact hnil rfl rfl
      | cons d cs => exact hverb d cs rfl rfl
    exact text c cs hc ih

/-- Nothing of a format is lost in reading. -/
theorem flatMap_source_read (cs : List Char) : (read cs).flatMap source = cs := by
  induction cs using format_induction with
  | nil => rfl
  | unpaired => rfl
  | percent cs ih => rw [read, List.flatMap_cons, ih]; rfl
  | verb c cs hc ih => rw [read_verb hc, List.flatMap_cons, ih]; rfl
  | text c cs hc ih => rw [read_text hc, List.flatMap_cons, ih]; rfl

lemma read_append {cs : List Char} (h : unpaired ∉ read cs) (ds : List Char) :
    read (cs ++ ds) = read cs ++ read ds := by
  induction cs using format_induction with
  | nil => rfl
  | unpaired => exact absurd List.mem_cons_self h
  | percent cs ih =>
    rw [read, List.mem_cons, not_or] at h
    simp only [List.cons_append, read, ih h.2]
  | verb c cs hc ih =>
    rw [read_verb hc, List.mem_cons, not_or] at h
    simp only [List.cons_append, read_verb hc, ih h.2]
  | text c cs hc ih =>
    rw [read_text hc, List.mem_cons, not_or] at h
    simp only [List.cons_append, read_text hc, ih h.2]

lemma read_of_notMem {cs : List Char} (h : '%' ∉ cs) : read cs = cs.map text := by
  induction cs with
  | nil => rfl
  | cons c cs ih =>
    rw [List.mem_cons, not_or] at h
    rw [read_text (Ne.symm h.1), ih h.2, List.map_cons]

end Directive

/-- What formatted output is made of. -/
inductive Piece where
  | copied (c : Char)
  | rendered (verb : Char) (v : Value)
  /-- The notice of a verb without an operand. -/
  | missing (verb : Char)
  /-- The notice of a percent sign without a verb. -/
  | noVerb
  /-- The notice of an operand without a verb. -/
  | extra (v : Value)

namespace Piece

def chars : Piece → List Char
  | copied c => [c]
  | rendered verb v => v.formatAs verb
  | missing verb => Value.missingNote verb
  | noVerb => Value.noVerbNote
  | extra v => v.extraNote

def operand? : Piece → Option Value
  | rendered _ v => some v
  | extra v => some v
  | _ => none

/-- The operand with the verb that it is written by. -/
def rendered? : Piece → Option (Char × Value)
  | rendered verb v => some (verb, v)
  | _ => none

def isMissing : Piece → Bool
  | missing _ => true
  | _ => false

def isExtra : Piece → Bool
  | extra _ => true
  | _ => false

/-- The pieces that directives come to with these operands. -/
def fill : List Directive → List Value → List Piece
  | [], vs => vs.map extra
  | .text c :: ds, vs => copied c :: fill ds vs
  | .percent :: ds, vs => copied '%' :: fill ds vs
  | .unpaired :: ds, vs => noVerb :: fill ds vs
  | .verb c :: ds, v :: vs => rendered c v :: fill ds vs
  | .verb c :: ds, [] => missing c :: fill ds []

/-- Directives that have all their operands leave the other operands to those after them. -/
theorem fill_append {ds : List Directive} {vs : List Value}
    (h : (Directive.verbs ds).length = vs.length) (es : List Directive) (ws : List Value) :
    fill (ds ++ es) (vs ++ ws) = fill ds vs ++ fill es ws := by
  fun_induction fill ds vs with
  | case1 vs =>
    obtain rfl : vs = [] := List.length_eq_zero_iff.1 h.symm
    rfl
  | case2 c ds vs ih =>
    rw [List.cons_append, fill, ih h, List.cons_append]
  | case3 ds vs ih =>
    rw [List.cons_append, fill, ih h, List.cons_append]
  | case4 ds vs ih =>
    rw [List.cons_append, fill, ih h, List.cons_append]
  | case5 c ds v vs ih =>
    rw [List.cons_append, List.cons_append, fill, ih (Nat.succ.inj h), List.cons_append]
  | case6 c ds ih => cases h

/-- Every operand is in one piece, in the order of the operands. -/
theorem filterMap_operand?_fill (ds : List Directive) (vs : List Value) :
    (fill ds vs).filterMap operand? = vs := by
  fun_induction fill ds vs with
  | case1 vs => simp [List.filterMap_map, Function.comp_def, operand?]
  | case2 c ds vs ih => exact ih
  | case3 ds vs ih => exact ih
  | case4 ds vs ih => exact ih
  | case5 c ds v vs ih => exact congrArg (v :: ·) ih
  | case6 c ds ih => exact ih

/-- The operands go to the verbs one by one. -/
theorem filterMap_rendered?_fill (ds : List Directive) (vs : List Value) :
    (fill ds vs).filterMap rendered? = (Directive.verbs ds).zip vs := by
  fun_induction fill ds vs with
  | case1 vs => simp [List.filterMap_map, Function.comp_def, rendered?, Directive.verbs]
  | case2 c ds vs ih => exact ih
  | case3 ds vs ih => exact ih
  | case4 ds vs ih => exact ih
  | case5 c ds v vs ih => exact congrArg ((c, v) :: ·) ih
  | case6 c ds ih =>
    rw [List.zip_nil_right] at ih ⊢
    exact ih

theorem countP_isMissing_fill (ds : List Directive) (vs : List Value) :
    (fill ds vs).countP isMissing = (Directive.verbs ds).length - vs.length := by
  fun_induction fill ds vs with
  | case1 vs => simp [List.countP_map, Function.comp_def, isMissing, Directive.verbs]
  | case2 c ds vs ih => exact ih
  | case3 ds vs ih => exact ih
  | case4 ds vs ih => exact ih
  | case5 c ds v vs ih => exact ih.trans (Nat.add_sub_add_right ..).symm
  | case6 c ds ih =>
    rw [List.countP_cons_of_pos rfl, ih]
    rfl

theorem countP_isExtra_fill (ds : List Directive) (vs : List Value) :
    (fill ds vs).countP isExtra = vs.length - (Directive.verbs ds).length := by
  fun_induction fill ds vs with
  | case1 vs => simp [List.countP_map, Function.comp_def, isExtra, Directive.verbs]
  | case2 c ds vs ih => exact ih
  | case3 ds vs ih => exact ih
  | case4 ds vs ih => exact ih
  | case5 c ds v vs ih => exact ih.trans (Nat.add_sub_add_right ..).symm
  | case6 c ds ih =>
    rw [List.length_nil, Nat.zero_sub] at ih ⊢
    exact ih

end Piece

namespace Value

open Piece (fill chars)

lemma flatMap_extra (vs : List Value) : (vs.map Piece.extra).flatMap chars = vs.flatMap extraNote :=
  List.flatMap_map _ _ vs

/-- Formatted output is the output of its pieces. -/
theorem formatChars_eq (cs : List Char) (vs : List Value) :
    formatChars cs vs = (fill (Directive.read cs) vs).flatMap chars := by
  induction cs using Directive.format_induction generalizing vs with
  | nil => exact (flatMap_extra vs).symm
  | unpaired =>
    rw [Directive.read, fill, fill, List.flatMap_cons, flatMap_extra]
    rfl
  | percent cs ih =>
    rw [Directive.read, fill, List.flatMap_cons, ← ih]
    rfl
  | verb c cs hc ih =>
    rw [Directive.read_verb hc]
    cases vs with
    | nil =>
      rw [fill, List.flatMap_cons, ← ih, formatChars]
      · rfl
      · exact hc
    | cons v vs =>
      rw [fill, List.flatMap_cons, ← ih, formatChars]
      · rfl
      · exact hc
  | text c cs hc ih =>
    rw [Directive.read_text hc, fill, List.flatMap_cons, ← ih, formatChars]
    · rfl
    all_goals simp [hc]

variable {f : String} {vs : List Value}

lemma format_append (hf : .unpaired ∉ Directive.read f.toList)
    (hvs : (Directive.verbs (Directive.read f.toList)).length = vs.length) (g : String)
    (ws : List Value) : format (f ++ g) (vs ++ ws) = format f vs ++ format g ws := by
  simp only [format, formatChars_eq, String.toList_append, Directive.read_append hf,
    Piece.fill_append hvs, List.flatMap_append, String.ofList_append]

lemma format_of_notMem (hf : '%' ∉ f.toList) : format f [] = f := by
  have hfill (cs : List Char) : (fill (cs.map .text) []).flatMap chars = cs := by
    induction cs with
    | nil => rfl
    | cons c cs ih => exact congrArg (c :: ·) ih
  rw [format, formatChars_eq, Directive.read_of_notMem hf, hfill, String.ofList_toList]

/-- The pieces of the output of a format, which is made of directives, with these operands. -/
structure Accounts (f : String) (vs : List Value) (ds : List Directive) (pieces : List Piece) :
    Prop where
  source : ds.flatMap Directive.source = f.toList
  output : (format f vs).toList = pieces.flatMap chars
  operands : pieces.filterMap Piece.operand? = vs
  rendered : pieces.filterMap Piece.rendered? = (Directive.verbs ds).zip vs
  missing : pieces.countP Piece.isMissing = (Directive.verbs ds).length - vs.length
  extra : pieces.countP Piece.isExtra = vs.length - (Directive.verbs ds).length

lemma accounts_fill (f : String) (vs : List Value) :
    Accounts f vs (Directive.read f.toList) (fill (Directive.read f.toList) vs) where
  source := Directive.flatMap_source_read f.toList
  output := by rw [format, formatChars_eq, String.toList_ofList]
  operands := Piece.filterMap_operand?_fill _ vs
  rendered := Piece.filterMap_rendered?_fill _ vs
  missing := Piece.countP_isMissing_fill _ vs
  extra := Piece.countP_isExtra_fill _ vs

end Value

end HostAddr
