import HostAddr.Proofs.AddressFamilies
import HostAddr.Proofs.LineReading
import HostAddr.Route

/-!
# Default routes from the first line that decides

A routing tool prints what it likes, and the default route is looked up in it line by line. The
first line that has a verdict decides, so neither what follows it nor a line without a verdict
matters, nor does the way in which lines end. Where the fields of a line decide, the white space
between them does not matter either.
-/

namespace HostAddr

namespace Route

/-- `b` follows the first `a` of a list. -/
def FollowsFirst {α : Type} (a b : α) (xs : List α) : Prop :=
  ∃ before after, xs = before ++ a :: b :: after ∧ a ∉ before

section

variable {α : Type} {a b x : α} {xs : List α}

lemma not_followsFirst_nil : ¬FollowsFirst a b [] := by
  rintro ⟨before, after, hxs, -⟩
  simp at hxs

lemma followsFirst_cons_self : FollowsFirst a b (a :: xs) ↔ xs.head? = some b := by
  constructor
  · rintro ⟨before, after, hxs, hbefore⟩
    cases before with
    | nil => rw [(List.cons.inj hxs).2, List.head?_cons]
    | cons y before => exact absurd ((List.cons.inj hxs).1 ▸ List.mem_cons_self) hbefore
  · intro hhead
    obtain ⟨after, rfl⟩ := List.head?_eq_some_iff.1 hhead
    exact ⟨[], after, rfl, List.not_mem_nil⟩

lemma followsFirst_cons_of_ne (h : x ≠ a) : FollowsFirst a b (x :: xs) ↔ FollowsFirst a b xs := by
  constructor
  · rintro ⟨before, after, hxs, hbefore⟩
    cases before with
    | nil => exact absurd (List.cons.inj hxs).1 h
    | cons y before =>
      exact ⟨before, after, (List.cons.inj hxs).2, mt (List.mem_cons_of_mem y) hbefore⟩
  · rintro ⟨before, after, rfl, hbefore⟩
    exact ⟨x :: before, after, rfl, List.not_mem_cons_of_ne_of_not_mem h.symm hbefore⟩

lemma device?_eq_some_iff {fields : List (List Char)} {name : List Char} :
    device? fields = some name ↔ FollowsFirst "dev".toList name fields := by
  induction fields with
  | nil => exact iff_of_false (by simp [device?]) not_followsFirst_nil
  | cons field fields ih =>
    cases fields with
    | nil =>
      refine iff_of_false (by simp [device?]) ?_
      by_cases hfield : field = "dev".toList
      · rw [hfield, followsFirst_cons_self]
        simp
      · rw [followsFirst_cons_of_ne hfield]
        exact not_followsFirst_nil
    | cons next fields =>
      rw [device?]
      by_cases hfield : field = "dev".toList
      · rw [if_pos hfield, hfield, followsFirst_cons_self, List.head?_cons]
      · rw [if_neg hfield, ih, followsFirst_cons_of_ne hfield]

end

/-- The texts in which a default route is looked up. -/
inductive Format where
  | listing
  | table
  | query
  | statistic
deriving DecidableEq

namespace Format

def route? : Format → String → Option String
  | listing => ofListing?
  | table => ofTable?
  | query => ofQuery?
  | statistic => ofStatistic?

/-- The number of lines at the head of a text that are not looked at. -/
def heading : Format → Nat
  | table => 1
  | _ => 0

/-- The line decides, with that answer. -/
inductive Decides : Format → List Char → Option String → Prop
  /-- A line of `default` names what follows its first `dev`. -/
  | device {line name : List Char} {fields : List (List Char)} (h : HasFields line fields)
    (hdefault : fields[0]? = some "default".toList)
    (hdevice : FollowsFirst "dev".toList name fields) :
    Decides listing line (some (String.ofList name))
  /-- A row of eight fields or more, the second and the eighth zero, names the first. -/
  | row {line name : List Char} {fields : List (List Char)} (h : HasFields line fields)
    (hname : fields[0]? = some name) (hdestination : fields[1]? = some "00000000".toList)
    (hmask : fields[7]? = some "00000000".toList) :
    Decides table line (some (String.ofList name))
  /-- A line that starts with `interface:` names the rest of it, if there is any. -/
  | interface {line rest : List Char} (h : trim line = "interface:".toList ++ rest) :
    Decides query line (if trim rest = [] then none else some (String.ofList (trim rest)))
  /-- A row of two zero addresses and, fourth, the address that it gives. -/
  | ipv4 {line word : List Char} {fields : List (List Char)} {a : BitVec 32}
    (h : HasFields line fields) (hdestination : fields[0]? = some "0.0.0.0".toList)
    (hmask : fields[1]? = some "0.0.0.0".toList) (haddress : fields[3]? = some word)
    (ha : IPv4.IsPlain word a) :
    Decides statistic line (some (String.ofList (IPv4.plainChars a)))
  | ipv6 {line word : List Char} {fields : List (List Char)} {a : BitVec 128}
    (h : HasFields line fields) (hdestination : fields[0]? = some "0.0.0.0".toList)
    (hmask : fields[1]? = some "0.0.0.0".toList) (haddress : fields[3]? = some word)
    (ha : IPv6.IsPlain word a) :
    Decides statistic line (some (String.ofList (IPv6.plainChars a)))

/-- The answer of the first line that decides, or none if no line does. -/
def FirstAnswer (f : Format) (ls : List (List Char)) (answer : Option String) : Prop :=
  (∃ before line after, ls = before ++ line :: after ∧ f.Decides line answer ∧
    ∀ l ∈ before, ∀ a, ¬f.Decides l a) ∨
  (answer = none ∧ ∀ l ∈ ls, ∀ a, ¬f.Decides l a)

/-- The answer of a line that decides. -/
def verdict? : Format → List Char → Option (Option String)
  | listing, line => (ofListingLine? line).map some
  | table, line => (ofTableLine? line).map some
  | query, line => (ofQueryLine? line).map fun name => (some name).filter (· ≠ "")
  | statistic, line => (ofStatisticLine? line).map some

section

variable {f : Format} {line line' : List Char} {answer : Option String}

lemma ofListingLine?_eq_some_iff {name : String} :
    ofListingLine? line = some name ↔ Decides listing line (some name) := by
  rw [ofListingLine?]
  constructor
  · intro h
    split at h
    · rename_i first rest hwords
      split at h
      · rename_i hdefault
        obtain ⟨device, hdevice, rfl⟩ := Option.map_eq_some_iff.1 h
        exact .device (words_eq_iff.1 hwords) (congrArg some hdefault)
          (device?_eq_some_iff.1 hdevice)
      · cases h
    · cases h
  · intro h
    cases h with
    | @device _ device fields h hdefault hdevice =>
      rw [h.words]
      cases fields with
      | nil => cases hdefault
      | cons first rest =>
        refine (if_pos (Option.some.inj hdefault)).trans ?_
        rw [device?_eq_some_iff.2 hdevice, Option.map_some]

lemma ofTableLine?_eq_some_iff {name : String} :
    ofTableLine? line = some name ↔ Decides table line (some name) := by
  rw [ofTableLine?]
  constructor
  · intro h
    split at h
    · rename_i hwords
      split at h
      · rename_i hzero
        cases h
        exact .row (words_eq_iff.1 hwords) rfl (congrArg some hzero.1) (congrArg some hzero.2)
      · cases h
    · cases h
  · intro h
    cases h with
    | @row _ _ fields h hname hdestination hmask =>
      rw [h.words]
      match fields, hname, hdestination, hmask with
      | _ :: _ :: _ :: _ :: _ :: _ :: _ :: _ :: _, rfl, hdestination, hmask =>
        exact if_pos ⟨Option.some.inj hdestination, Option.some.inj hmask⟩

lemma ofStatisticLine?_eq_some_iff {address : String} :
    ofStatisticLine? line = some address ↔ Decides statistic line (some address) := by
  rw [ofStatisticLine?]
  constructor
  · intro h
    split at h
    · rename_i hwords
      split at h
      · rename_i hzero
        have hfields := words_eq_iff.1 hwords
        split at h
        · rename_i a hread
          cases h
          exact .ipv4 hfields (congrArg some hzero.1) (congrArg some hzero.2) rfl
            (IPv4.readPlain?_eq_some_iff.1 hread)
        · rename_i a _ hread
          cases h
          exact .ipv6 hfields (congrArg some hzero.1) (congrArg some hzero.2) rfl
            (IPv6.readPlain?_eq_some_iff.1 hread)
        · cases h
      · cases h
    · cases h
  · intro h
    cases h with
    | @ipv4 _ word fields a h hdestination hmask haddress ha =>
      rw [h.words]
      match fields, hdestination, hmask, haddress with
      | _ :: _ :: _ :: _ :: _, hdestination, hmask, rfl =>
        refine (if_pos ⟨Option.some.inj hdestination, Option.some.inj hmask⟩).trans ?_
        rw [IPv4.readPlain?_eq_some_iff.2 ha]
    | @ipv6 _ word fields a h hdestination hmask haddress ha =>
      have hnot : IPv4.readPlain? word = none := by
        rw [Option.eq_none_iff_forall_ne_some]
        intro b hb
        have hcolon := List.count_eq_zero.2 (IPv4.readPlain?_eq_some_iff.1 hb).colon_notMem
        have htwo := ha.two_le_count
        omega
      rw [h.words]
      match fields, hdestination, hmask, haddress with
      | _ :: _ :: _ :: _ :: _, hdestination, hmask, rfl =>
        refine (if_pos ⟨Option.some.inj hdestination, Option.some.inj hmask⟩).trans ?_
        rw [hnot, IPv6.readPlain?_eq_some_iff.2 ha]

/-- A line that decides by its fields has an answer. -/
lemma Decides.ne_none (hf : f ≠ query) (h : f.Decides line answer) : answer ≠ none := by
  cases h with
  | interface => exact absurd rfl hf
  | _ => exact Option.some_ne_none _

lemma map_some_eq_some_iff {name? : List Char → Option String} (hf : f ≠ query)
    (h : ∀ {line name}, name? line = some name ↔ f.Decides line (some name)) :
    (name? line).map some = some answer ↔ f.Decides line answer := by
  cases answer with
  | none => exact iff_of_false (by simp) fun hnone => hnone.ne_none hf rfl
  | some name => rw [← h, Option.map_eq_some_iff]; simp

/-- The verdict of a line is what it decides. -/
theorem verdict?_eq_some_iff : f.verdict? line = some answer ↔ f.Decides line answer := by
  cases f with
  | listing => exact map_some_eq_some_iff (by decide) ofListingLine?_eq_some_iff
  | table => exact map_some_eq_some_iff (by decide) ofTableLine?_eq_some_iff
  | statistic => exact map_some_eq_some_iff (by decide) ofStatisticLine?_eq_some_iff
  | query =>
    have hname (cs : List Char) : (some (String.ofList cs)).filter (· ≠ "") =
        if cs = [] then none else some (String.ofList cs) := by
      by_cases hcs : cs = []
      · simp [hcs]
      · simp [hcs, String.ofList_eq_empty_iff]
    rw [verdict?, ofQueryLine?, Option.map_map, Option.map_eq_some_iff]
    simp only [List.isPrefixOf?_eq_some_iff_append_eq, Function.comp_apply, hname]
    constructor
    · rintro ⟨rest, hrest, rfl⟩
      exact .interface hrest.symm
    · intro h
      cases h with
      | interface h => exact ⟨_, h.symm, rfl⟩

lemma verdict?_eq_none_iff : f.verdict? line = none ↔ ∀ a, ¬f.Decides line a := by
  simp only [Option.eq_none_iff_forall_ne_some, ne_eq, verdict?_eq_some_iff]

/-- Where fields decide, white space does not matter. -/
lemma verdict?_of_words (hf : f ≠ query) (h : words line = words line') :
    f.verdict? line = f.verdict? line' := by
  cases f with
  | listing => simp only [verdict?, ofListingLine?, h]
  | table => simp only [verdict?, ofTableLine?, h]
  | statistic => simp only [verdict?, ofStatisticLine?, h]
  | query => exact absurd rfl hf

end

lemma ignoresLineEnds (f : Format) : IgnoresLineEnds f.verdict? where
  nil := by cases f <;> rfl
  concat_return line := by
    by_cases hf : f = query
    · subst hf
      have htrim := trim_append (List.forall_mem_nil _)
        (List.forall_mem_singleton.2 (show isBlank '\r' from rfl)) line
      rw [verdict?, ofQueryLine?, verdict?, ofQueryLine?, ← htrim, List.nil_append]
    · exact verdict?_of_words hf (words_append_blank rfl line)

/-- Every look-up is for the first verdict. -/
lemma route?_eq (f : Format) (text : String) :
    f.route? text = (((lines text.toList).drop f.heading).findSome? f.verdict?).join := by
  have hnames (found : Option String) : (found.map some).join = found := by cases found <;> rfl
  have hquery (found : Option String) :
      (found.map fun name => (some name).filter (· ≠ "")).join = found.filter (· ≠ "") := by
    cases found <;> rfl
  cases f with
  | listing => exact (hnames _).symm.trans (congrArg Option.join List.map_findSome?)
  | table => exact (hnames _).symm.trans (congrArg Option.join List.map_findSome?)
  | query => exact (hquery _).symm.trans (congrArg Option.join List.map_findSome?)
  | statistic => exact (hnames _).symm.trans (congrArg Option.join List.map_findSome?)

lemma route?_eq_iff {f : Format} {text : String} {answer : Option String} :
    f.route? text = answer ↔ f.FirstAnswer ((lines text.toList).drop f.heading) answer := by
  have hjoin (found : Option (Option String)) :
      found.join = answer ↔ found = some answer ∨ (answer = none ∧ found = none) := by
    cases found with
    | none => simp [eq_comm]
    | some verdict => simp
  rw [route?_eq, hjoin, List.findSome?_eq_some_iff, List.findSome?_eq_none_iff, FirstAnswer]
  simp only [verdict?_eq_some_iff, verdict?_eq_none_iff]

end Format

/-- What a look-up by the first line that decides takes from a text. -/
structure FirstLineDecides (f : Format) : Prop where
  unique : ∀ line a b, f.Decides line a → f.Decides line b → a = b
  eq_iff : ∀ text answer,
    f.route? text = answer ↔ f.FirstAnswer ((lines text.toList).drop f.heading) answer
  /-- Where fields decide, a route is missing only if no line decides. -/
  eq_none_iff : f ≠ .query → ∀ text, f.route? text = none ↔
    ∀ line ∈ (lines text.toList).drop f.heading, ∀ a, ¬f.Decides line a
  /-- Nothing after the line that decides matters. -/
  after : ∀ s t, (∃ line ∈ (lines s.toList).drop f.heading, ∃ a, f.Decides line a) →
    f.route? (s ++ "\n" ++ t) = f.route? s
  /-- Nor do lines that do not decide, wherever they stand below the heading. -/
  between : ∀ s b t, (∀ line ∈ lines b.toList, ∀ a, ¬f.Decides line a) →
    f.route? (s ++ "\n" ++ b ++ "\n" ++ t) = f.route? (s ++ "\n" ++ t)
  atEnd : ∀ s b, (∀ line ∈ lines b.toList, ∀ a, ¬f.Decides line a) →
    f.route? (s ++ "\n" ++ b) = f.route? s
  atStart : f.heading = 0 → ∀ b t, (∀ line ∈ lines b.toList, ∀ a, ¬f.Decides line a) →
    f.route? (b ++ "\n" ++ t) = f.route? t
  lineEnds : ∀ s t : String, SameUpToLineEnds s.toList t.toList → f.route? s = f.route? t
  blanks : f ≠ .query → ∀ s t : String,
    List.Forall₂ SameFields ((lines s.toList).drop f.heading) ((lines t.toList).drop f.heading) →
    f.route? s = f.route? t

namespace Format

variable {f : Format}

lemma heading_le (f : Format) : f.heading ≤ 1 := by
  cases f <;> decide

lemma findSome?_eq_none {ls : List (List Char)} (h : ∀ line ∈ ls, ∀ a, ¬f.Decides line a) :
    ls.findSome? f.verdict? = none :=
  List.findSome?_eq_none_iff.2 fun line hline => verdict?_eq_none_iff.2 (h line hline)

/-- A text is looked up in after the text before it. -/
lemma route?_append (f : Format) (s t : String) :
    f.route? (s ++ "\n" ++ t) = ((((lines s.toList).drop f.heading).findSome? f.verdict?).or
      ((lines t.toList).findSome? f.verdict?)).join := by
  rw [route?_eq, f.ignoresLineEnds.findSome?_append f.heading_le]

lemma route?_append_of_decides {s : String}
    (h : ∃ line ∈ (lines s.toList).drop f.heading, ∃ a, f.Decides line a) (t : String) :
    f.route? (s ++ "\n" ++ t) = f.route? s := by
  obtain ⟨line, hline, a, ha⟩ := h
  have hfound : (((lines s.toList).drop f.heading).findSome? f.verdict?).isSome :=
    List.findSome?_isSome_iff.2 ⟨line, hline, by rw [verdict?_eq_some_iff.2 ha]; rfl⟩
  rw [route?_append, Option.or_of_isSome hfound, route?_eq]

lemma route?_append_of_not_decides {b : String}
    (h : ∀ line ∈ lines b.toList, ∀ a, ¬f.Decides line a) (s : String) :
    f.route? (s ++ "\n" ++ b) = f.route? s := by
  rw [route?_append, findSome?_eq_none h, Option.or_none, route?_eq]

lemma route?_between {b : String} (h : ∀ line ∈ lines b.toList, ∀ a, ¬f.Decides line a)
    (s t : String) : f.route? (s ++ "\n" ++ b ++ "\n" ++ t) = f.route? (s ++ "\n" ++ t) := by
  rw [route?_append, f.ignoresLineEnds.findSome?_append f.heading_le, findSome?_eq_none h,
    Option.or_none, route?_append]

lemma route?_of_not_decides {b : String} (hf : f.heading = 0)
    (h : ∀ line ∈ lines b.toList, ∀ a, ¬f.Decides line a) (t : String) :
    f.route? (b ++ "\n" ++ t) = f.route? t := by
  rw [route?_append, route?_eq, hf, List.drop_zero, List.drop_zero, findSome?_eq_none h,
    Option.none_or]

lemma route?_of_sameUpToLineEnds {s t : String} (h : SameUpToLineEnds s.toList t.toList) :
    f.route? s = f.route? t := by
  rw [route?_eq, route?_eq, f.ignoresLineEnds.findSome?_of_sameUpToLineEnds f.heading h]

lemma route?_of_sameFields {s t : String} (hf : f ≠ query)
    (h : List.Forall₂ SameFields ((lines s.toList).drop f.heading)
      ((lines t.toList).drop f.heading)) : f.route? s = f.route? t := by
  rw [route?_eq, route?_eq]
  exact congrArg Option.join (findSome?_congr (h.imp fun _ _ hsame =>
    verdict?_of_words hf hsame.words_eq))

lemma route?_eq_none_iff {text : String} (hf : f ≠ query) :
    f.route? text = none ↔
      ∀ line ∈ (lines text.toList).drop f.heading, ∀ a, ¬f.Decides line a := by
  rw [route?_eq_iff]
  constructor
  · rintro (⟨_, line, _, _, hline, _⟩ | ⟨-, h⟩)
    · exact absurd rfl (hline.ne_none hf)
    · exact h
  · intro h
    exact .inr ⟨rfl, h⟩

end Format

/-- Every look-up of a default route is for the first line that decides. -/
theorem firstLineDecides (f : Format) : FirstLineDecides f where
  unique _ _ _ ha hb :=
    Option.some.inj ((Format.verdict?_eq_some_iff.2 ha).symm.trans
      (Format.verdict?_eq_some_iff.2 hb))
  eq_iff _ _ := Format.route?_eq_iff
  eq_none_iff hf _ := Format.route?_eq_none_iff hf
  after _ t h := Format.route?_append_of_decides h t
  between s _ t h := Format.route?_between h s t
  atEnd s _ h := Format.route?_append_of_not_decides h s
  atStart hf _ t h := Format.route?_of_not_decides hf h t
  lineEnds _ _ := Format.route?_of_sameUpToLineEnds
  blanks hf _ _ := Format.route?_of_sameFields hf

/-- A line of `default` without a device is passed over, and a second `dev` is a name. -/
example : ofListing? "default via 10.0.0.1\r\n default\tdev\u00a0 dev en0 \ndefault dev en1" =
    some "dev" := by
  decide +kernel

/-- The first line of a table is a heading, whatever its fields are. -/
example : ofTable? "en0 00000000 0 0 0 0 0 00000000\r\nen1\t00000000 0 0 0 0 0  00000000 0" =
    some "en1" := by
  decide +kernel

end Route

end HostAddr
