/-!
# Cutting text

Cuts at the first or the last occurrence of a character, at the first occurrence of a marker,
and at line ends. A cut drops what it cuts at.
-/

namespace HostAddr

def cutFirst? (c : Char) : List Char → Option (List Char × List Char)
  | [] => none
  | d :: cs =>
    if d = c then some ([], cs)
    else (cutFirst? c cs).map fun (before, after) => (d :: before, after)

theorem cutFirst?_eq_none_iff {c : Char} {cs : List Char} :
    cutFirst? c cs = none ↔ c ∉ cs := by
  induction cs with
  | nil => simp [cutFirst?]
  | cons d cs ih =>
    by_cases h : d = c
    · simp [cutFirst?, h]
    · simp [cutFirst?, h, ih, Ne.symm h]

theorem cutFirst?_eq_some_iff {c : Char} {cs before after : List Char} :
    cutFirst? c cs = some (before, after) ↔ c ∉ before ∧ cs = before ++ c :: after := by
  induction cs generalizing before with
  | nil => simp [cutFirst?]
  | cons d cs ih =>
    by_cases h : d = c
    · subst h
      cases before with
      | nil => simp [cutFirst?]
      | cons b before => simpa [cutFirst?] using fun hd _ e => absurd e hd
    · cases before with
      | nil => simp [cutFirst?, h]
      | cons b before =>
        simp only [cutFirst?, h, if_false, Option.map_eq_some_iff, Prod.exists, Prod.mk.injEq,
          List.cons.injEq, List.mem_cons, List.cons_append, not_or]
        constructor
        · rintro ⟨x, y, hcut, ⟨rfl, rfl⟩, rfl⟩
          obtain ⟨hx, rfl⟩ := ih.1 hcut
          exact ⟨⟨Ne.symm h, hx⟩, rfl, rfl⟩
        · rintro ⟨⟨_, hb⟩, rfl, rfl⟩
          exact ⟨before, after, ih.2 ⟨hb, rfl⟩, ⟨rfl, rfl⟩, rfl⟩

theorem length_cutFirst_lt {c : Char} {cs before after : List Char}
    (h : cutFirst? c cs = some (before, after)) : after.length < cs.length := by
  rw [(cutFirst?_eq_some_iff.1 h).2, List.length_append, List.length_cons]
  omega

def cutLast? (c : Char) (cs : List Char) : Option (List Char × List Char) :=
  (cutFirst? c cs.reverse).map fun (before, after) => (after.reverse, before.reverse)

/-- The text before and after the first occurrence of a non-empty marker. -/
def cutAt? (marker : List Char) : List Char → Option (List Char × List Char)
  | [] => none
  | c :: cs =>
    if marker.isPrefixOf (c :: cs) then some ([], (c :: cs).drop marker.length)
    else (cutAt? marker cs).map fun (before, after) => (c :: before, after)

/-- A cut loses nothing but the marker. -/
theorem eq_append_of_cutAt {marker cs before after : List Char}
    (h : cutAt? marker cs = some (before, after)) : cs = before ++ (marker ++ after) := by
  induction cs generalizing before with
  | nil => simp [cutAt?] at h
  | cons d cs ih =>
    simp only [cutAt?] at h
    split at h
    · rename_i hmarker
      cases h
      simpa using (List.prefix_iff_eq_append.1 (List.isPrefixOf_iff_prefix.1 hmarker)).symm
    · obtain ⟨⟨b, a⟩, hcut, hpair⟩ := Option.map_eq_some_iff.1 h
      cases hpair
      rw [ih hcut]
      rfl

theorem length_cutAt_lt {marker cs before after : List Char} (hm : marker ≠ [])
    (h : cutAt? marker cs = some (before, after)) : after.length < cs.length := by
  have hpos := List.length_pos_iff.2 hm
  have hlen := congrArg List.length (eq_append_of_cutAt h)
  simp only [List.length_append] at hlen
  omega

/-- A line without the carriage return that belongs to its line end. -/
def dropReturn (line : List Char) : List Char :=
  if line.getLast? = some '\r' then line.dropLast else line

/-- The lines of a text. A line ends with a line feed, which a carriage return may precede; the
last line may lack it. -/
def lines (cs : List Char) : List (List Char) :=
  let parts := cs.splitOn '\n'
  parts.dropLast.map dropReturn ++ parts.getLast?.toList.filter (· ≠ [])

end HostAddr
