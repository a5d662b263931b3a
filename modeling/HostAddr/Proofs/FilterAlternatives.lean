import HostAddr.Proofs.FilterSplits

/-!
# Bars in the parameters of filters

A bar joins two parameters, each of which may have bars in it. They are read from left to right, up
to the first word that is malformed. A record meets both together when it meets one of them, except
with flags, where it has to meet both, so that a filter on flags is two filters one after the other.
-/

namespace HostAddr

variable {engine : PatternEngine}

namespace Filter

variable {s : Selector} {op : Bool → Bool → Bool} {p q : String}

lemma tokens_bar (p q : String) : tokens (p ++ "|" ++ q) = tokens p ++ tokens q := by
  rw [tokens, splitOn_append_mark rfl, List.map_append]
  rfl

/-- Of two parameters with a bar in between the left one is read first, and `op` joins what they say
of a record. -/
structure JoinsAtBar (engine : PatternEngine) (s : Selector) (op : Bool → Bool → Bool)
    (p q : String) : Prop where
  fails : ∀ e, compile engine s (p ++ "|" ++ q) = .error e ↔
    compile engine s p = .error e ∨
      (∃ f, compile engine s p = .ok f) ∧ compile engine s q = .error e
  joins : ∀ f g, compile engine s p = .ok f → compile engine s q = .ok g →
    ∃ h, compile engine s (p ++ "|" ++ q) = .ok h ∧ ∀ r, h.holds r = op (f.holds r) (g.holds r)

/-- A selector that reads its parameter word by word joins parameters as it joins words. -/
theorem joinsAtBar_of_words {α : Type} {parse : String → Except Error α} {make : List α → Filter}
    (hcompile : ∀ param, compile engine s param = ((tokens param).mapM parse).map make)
    (hmake : ∀ as bs r, (make (as ++ bs)).holds r = op ((make as).holds r) ((make bs).holds r)) :
    JoinsAtBar engine s op p q := by
  have hbar : compile engine s (p ++ "|" ++ q) = ((tokens p).mapM parse >>= fun as =>
      (tokens q).mapM parse >>= fun bs => Except.ok (as ++ bs)).map make := by
    rw [hcompile, tokens_bar, List.mapM_append]
    rfl
  constructor
  · intro e
    rw [hbar, hcompile, hcompile]
    rcases exists_ok_or_error ((tokens p).mapM parse) with ⟨as, has⟩ | ⟨d, hd⟩
    · rcases exists_ok_or_error ((tokens q).mapM parse) with ⟨bs, hbs⟩ | ⟨d, hd⟩
      · simp [has, hbs, Except.map]
      · simp [has, hd, Except.map]
    · simp [hd, Except.map]
  · intro f g hf hg
    obtain ⟨as, has, rfl⟩ := map_eq_ok_iff.1 (hcompile p ▸ hf)
    obtain ⟨bs, hbs, rfl⟩ := map_eq_ok_iff.1 (hcompile q ▸ hg)
    refine ⟨make (as ++ bs), ?_, hmake as bs⟩
    rw [hbar, has, hbs]
    rfl

theorem joinsAtBar_or (hs : s ∈ [Selector.rfc, .type, .network]) : JoinsAtBar engine s or p q := by
  simp only [List.mem_cons, List.not_mem_nil, or_false] at hs
  rcases hs with rfl | rfl | rfl
  · exact joinsAtBar_of_words (fun _ => rfl) fun _ _ _ => List.any_append
  · exact joinsAtBar_of_words (fun _ => rfl) fun _ _ _ => List.any_append
  · exact joinsAtBar_of_words (fun _ => rfl) fun _ _ _ => List.any_append

theorem joinsAtBar_and : JoinsAtBar engine .flag and p q :=
  joinsAtBar_of_words (fun _ => rfl) fun _ _ _ => List.all_append

namespace JoinsAtBar

lemma exists_ok_iff (h : JoinsAtBar engine s op p q) :
    (∃ f, compile engine s (p ++ "|" ++ q) = .ok f) ↔
      (∃ f, compile engine s p = .ok f) ∧ ∃ g, compile engine s q = .ok g := by
  constructor
  · rintro ⟨f, hf⟩
    have hnone : ∀ e, compile engine s (p ++ "|" ++ q) ≠ .error e := by simp [hf]
    simp only [ne_eq, h.fails, not_or, not_and] at hnone
    have hp : ∃ f, compile engine s p = .ok f :=
      (exists_ok_or_error _).resolve_right fun ⟨e, he⟩ => (hnone e).1 he
    exact ⟨hp, (exists_ok_or_error _).resolve_right fun ⟨e, he⟩ => (hnone e).2 hp he⟩
  · rintro ⟨⟨f, hf⟩, g, hg⟩
    obtain ⟨u, hu, -⟩ := h.joins f g hf hg
    exact ⟨u, hu⟩

end JoinsAtBar

end Filter

section

variable {word : String} {s : Selector}

/-- Only filters on sizes refuse records, so all others give back what meets them. -/
lemma includeBy_eq_map (hs : Selector.parse word = .ok s) (hsize : s ≠ .size) (param : String)
    (rs : List Record) :
    includeBy engine word param rs =
      (Filter.compile engine s param).map fun f => rs.filter f.holds := by
  cases hf : Filter.compile engine s param with
  | error e =>
    rw [includeBy, partitionBy_eq_error hs hf]
    rfl
  | ok f =>
    refine includeBy_eq_ok hs hf fun r _ => Option.eq_none_iff_forall_ne_some.2 fun e he => ?_
    obtain ⟨bits, rfl, -⟩ := Filter.refusal?_eq_some_iff.1 he
    exact hsize (Filter.compile_eq_size_iff.1 hf).1

/-- A list that is filtered by both parameters is put to `op` record by record, and fails with the
first parameter that does. -/
lemma includeBy_bar {op : Bool → Bool → Bool} {p q : String} (hs : Selector.parse word = .ok s)
    (hsize : s ≠ .size) (hbar : Filter.JoinsAtBar engine s op p q) (rs : List Record) :
    includeBy engine word (p ++ "|" ++ q) rs = (Filter.compile engine s p >>= fun f =>
      (Filter.compile engine s q).map fun g => rs.filter fun r => op (f.holds r) (g.holds r)) := by
  rw [includeBy_eq_map hs hsize]
  rcases exists_ok_or_error (Filter.compile engine s p) with ⟨f, hf⟩ | ⟨e, he⟩
  · rcases exists_ok_or_error (Filter.compile engine s q) with ⟨g, hg⟩ | ⟨e, he⟩
    · obtain ⟨h, hh, hholds⟩ := hbar.joins f g hf hg
      rw [hh, hf, hg]
      exact congrArg Except.ok (List.filter_congr fun r _ => hholds r)
    · rw [(hbar.fails e).2 (.inr ⟨⟨f, hf⟩, he⟩), hf, he]
      rfl
  · rw [(hbar.fails e).2 (.inl he), he]
    rfl

theorem includeBy_bar_union {p q : String} (hs : Selector.parse word = .ok s)
    (hunion : s ∈ [Selector.rfc, .type, .network]) (rs : List Record) :
    includeBy engine word (p ++ "|" ++ q) rs = (do
      let met ← includeBy engine word p rs
      let met' ← includeBy engine word q rs
      return rs.filter fun r => r ∈ met ∨ r ∈ met') := by
  have hsize : s ≠ .size := by
    rintro rfl
    exact absurd hunion (by decide)
  rw [includeBy_bar hs hsize (Filter.joinsAtBar_or hunion), includeBy_eq_map hs hsize,
    includeBy_eq_map hs hsize]
  cases Filter.compile engine s p with
  | error e => rfl
  | ok f =>
    cases Filter.compile engine s q with
    | error e => rfl
    | ok g =>
      refine congrArg Except.ok (List.filter_congr fun r hr => ?_)
      rw [Bool.eq_iff_iff]
      simp [hr]

theorem includeBy_bar_flag {p q : String} (hs : Selector.parse word = .ok .flag)
    (rs : List Record) :
    includeBy engine word (p ++ "|" ++ q) rs =
      includeBy engine word p rs >>= includeBy engine word q := by
  have hsize : Selector.flag ≠ .size := by decide
  rw [includeBy_bar hs hsize Filter.joinsAtBar_and, includeBy_eq_map hs hsize,
    funext (includeBy_eq_map hs hsize q)]
  cases Filter.compile engine .flag p with
  | error e => rfl
  | ok f =>
    cases Filter.compile engine .flag q with
    | error e => rfl
    | ok g =>
      have htwice : (rs.filter f.holds).filter g.holds =
          rs.filter fun r => f.holds r && g.holds r := by
        rw [List.filter_filter]
        exact List.filter_congr fun r _ => Bool.and_comm _ _
      exact congrArg Except.ok htwice.symm

end

/-- Two parameters with a bar in between are read exactly when both are, and fail as the left one
does or else the right one. A record meets them together when it meets one of them; with flags, they
keep what one filter after the other does. -/
theorem parameters_join_at_bar (engine : PatternEngine) (p q : String) :
    (∀ s ∈ [Selector.rfc, .type, .network, .flag],
      ((∃ h, Filter.compile engine s (p ++ "|" ++ q) = .ok h) ↔
        (∃ f, Filter.compile engine s p = .ok f) ∧ ∃ g, Filter.compile engine s q = .ok g) ∧
      ∀ e, Filter.compile engine s (p ++ "|" ++ q) = .error e ↔
        Filter.compile engine s p = .error e ∨
          (∃ f, Filter.compile engine s p = .ok f) ∧ Filter.compile engine s q = .error e) ∧
    (∀ s ∈ [Selector.rfc, .type, .network],
      (∀ f g h, Filter.compile engine s p = .ok f → Filter.compile engine s q = .ok g →
        Filter.compile engine s (p ++ "|" ++ q) = .ok h →
          ∀ r, h.holds r = true ↔ f.holds r = true ∨ g.holds r = true) ∧
      ∀ word, Selector.parse word = .ok s → ∀ rs,
        includeBy engine word (p ++ "|" ++ q) rs = (do
          let met ← includeBy engine word p rs
          let met' ← includeBy engine word q rs
          return rs.filter fun r => r ∈ met ∨ r ∈ met')) ∧
    ∀ word, Selector.parse word = .ok .flag → ∀ rs,
      includeBy engine word (p ++ "|" ++ q) rs =
      includeBy engine word p rs >>= includeBy engine word q := by
  refine ⟨fun s hs => ?_, fun s hs => ⟨fun f g h hf hg hh r => ?_, fun word hword rs => ?_⟩,
    fun word hword rs => includeBy_bar_flag hword rs⟩
  · have hbar : ∃ op, Filter.JoinsAtBar engine s op p q := by
      by_cases hflag : s = .flag
      · exact ⟨and, hflag ▸ Filter.joinsAtBar_and⟩
      · exact ⟨or, Filter.joinsAtBar_or (by simpa [hflag] using hs)⟩
    obtain ⟨op, hbar⟩ := hbar
    exact ⟨hbar.exists_ok_iff, hbar.fails⟩
  · obtain ⟨h', hh', hholds⟩ := (Filter.joinsAtBar_or hs).joins f g hf hg
    obtain rfl : h = h' := Except.ok.inj (hh.symm.trans hh')
    rw [hholds, Bool.or_eq_true]
  · exact includeBy_bar_union hword hs rs

open Registry (v4) in
/-- An empty word is malformed, and a parameter with bars in it goes with another as a word does. -/
theorem parameters_join_at_bar_mixed :
    let engine := Regex.engine
    ∃ rs : List Record, rs.map (·.address.text) =
        ["10.1.2.3/8", "\"/run/bus\"", "169.254.0.1/16", "8.8.8.8"] ∧
      Filter.compile engine .type ("ip|" ++ "|" ++ "ipx") = .error (.unknownType "") ∧
      (includeBy engine "rfc" ("1918" ++ "|" ++ " 3927|4193") rs).map (·.map (·.address.text)) =
        .ok ["10.1.2.3/8", "169.254.0.1/16"] ∧
      (includeBy engine " Flags" ("up|Broadcast" ++ "|" ++ "forwardable ") rs).map
        (·.map (·.address.text)) = .ok ["10.1.2.3/8", "8.8.8.8"] := by
  intro engine
  let i : Interface := ⟨1, "en0", 1500, .ofBits 3, none⟩
  let rs : List Record := [⟨v4 10 1 2 3 8, i⟩, ⟨.unix ⟨"/run/bus", by decide⟩, i⟩,
    ⟨v4 169 254 0 1 16, i⟩, ⟨v4 8 8 8 8 32, i⟩]
  refine ⟨rs, by decide +kernel, ?_, ?_, ?_⟩
  · obtain ⟨hread, -⟩ := parameters_join_at_bar engine "ip|" "ipx"
    have hwords : (Filter.tokens "ip|").mapM TypeFilter.parse = .error (.unknownType "") := by
      decide +kernel
    have hleft : Filter.compile engine .type "ip|" = .error (.unknownType "") := by
      rw [Filter.compile, hwords]
      rfl
    exact ((hread .type (by decide)).2 _).2 (.inl hleft)
  · obtain ⟨-, hunion, -⟩ := parameters_join_at_bar engine "1918" " 3927|4193"
    rw [(hunion .rfc (by decide)).2 "rfc" (by decide +kernel)]
    decide +kernel
  · obtain ⟨-, -, hflag⟩ := parameters_join_at_bar engine "up|Broadcast" "forwardable "
    rw [hflag " Flags" (by decide +kernel)]
    decide +kernel

end HostAddr
