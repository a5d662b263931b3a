import HostAddr.Proofs.AddressReading
import HostAddr.Proofs.Outcome
import HostAddr.Selection.Filter

/-!
# Filters by the words they are written with

The parameter of a filter is read into the filter that it names, and a filter that refuses no
record keeps the records that meet it and drops the others. Networks are named by their texts with
bars in between, as many as there are.
-/

namespace HostAddr

variable {engine : PatternEngine}

lemma Filter.split_eq_ok_iff {f : Filter} {rs : List Record} {parts : List Record × List Record} :
    f.split rs = .ok parts ↔
      (∀ r ∈ rs, f.refusal? r = none) ∧ (rs.filter f.holds, rs.filter (!f.holds ·)) = parts := by
  rw [split, ← List.findSome?_eq_none_iff]
  cases rs.findSome? f.refusal? with
  | some e => simp
  | none => simp [List.partition_eq_filter_filter, Function.comp_def]

section

variable {selector param : String} {s : Selector} {f : Filter} {rs : List Record}

lemma partitionBy_eq_error {e : Error} (hs : Selector.parse selector = .ok s)
    (hf : Filter.compile engine s param = .error e) :
    partitionBy engine selector param rs = .error e := by
  rw [partitionBy, hs, ok_bind, hf, error_bind]

lemma partitionBy_eq_ok (hs : Selector.parse selector = .ok s)
    (hf : Filter.compile engine s param = .ok f) (hrefusal : ∀ r ∈ rs, f.refusal? r = none) :
    partitionBy engine selector param rs = .ok (rs.filter f.holds, rs.filter (!f.holds ·)) := by
  rw [partitionBy, hs, ok_bind, hf, ok_bind]
  exact Filter.split_eq_ok_iff.2 ⟨hrefusal, rfl⟩

lemma includeBy_eq_ok (hs : Selector.parse selector = .ok s)
    (hf : Filter.compile engine s param = .ok f) (hrefusal : ∀ r ∈ rs, f.refusal? r = none) :
    includeBy engine selector param rs = .ok (rs.filter f.holds) := by
  rw [includeBy, partitionBy_eq_ok hs hf hrefusal]
  rfl

lemma excludeBy_eq_ok (hs : Selector.parse selector = .ok s)
    (hf : Filter.compile engine s param = .ok f) (hrefusal : ∀ r ∈ rs, f.refusal? r = none) :
    excludeBy engine selector param rs = .ok (rs.filter (!f.holds ·)) := by
  rw [excludeBy, partitionBy_eq_ok hs hf hrefusal]
  rfl

end

lemma includeBy_ip (rs : List Record) :
    includeBy engine "type" "ip" rs = .ok (rs.filter (·.address.isIP)) := by
  have hs : Selector.parse "type" = .ok .type := by decide +kernel
  have htypes : (Filter.tokens "ip").mapM TypeFilter.parse = .ok [.ip] := by decide +kernel
  have hf : Filter.compile engine .type "ip" = .ok (.types [.ip]) := by
    rw [Filter.compile, htypes]
    rfl
  rw [includeBy_eq_ok hs hf fun _ _ => rfl]
  refine congrArg Except.ok (List.filter_congr fun r _ => ?_)
  exact Bool.or_false _

lemma includeBy_forwardable (rs : List Record) :
    includeBy engine "flag" "forwardable" rs =
      .ok (rs.filter (Registry.isForwardable ·.address)) := by
  have hs : Selector.parse "flag" = .ok .flag := by decide +kernel
  have hflags : (Filter.tokens "forwardable").mapM Flag.parse = .ok [.forwardable] := by
    decide +kernel
  have hf : Filter.compile engine .flag "forwardable" = .ok (.flags [.forwardable]) := by
    rw [Filter.compile, hflags]
    rfl
  rw [includeBy_eq_ok hs hf fun _ _ => rfl]
  exact congrArg Except.ok (List.filter_congr fun r _ => Bool.and_true _)

namespace Filter

lemma tokens_intercalate {ts : List String} (hne : ts ≠ []) (hbar : ∀ t ∈ ts, '|' ∉ t.toList) :
    tokens ("|".intercalate ts) = ts := by
  have hparts : ∀ part ∈ ts.map String.toList, '|' ∉ part := by simpa using hbar
  rw [tokens, String.toList_intercalate]
  show ((['|'].intercalate (ts.map String.toList)).splitOn '|').map String.ofList = ts
  rw [List.splitOn_intercalate '|' hparts (by simpa using hne), List.map_map]
  simp

lemma tokens_of_notMem {s : String} (h : '|' ∉ s.toList) : tokens s = [s] := by
  have hs := tokens_intercalate (List.cons_ne_nil s []) (by simpa using h)
  rwa [String.intercalate_singleton] at hs

end Filter

section

variable {n : Nat}

lemma readWithPlus?_decimal {limit : Nat} (h : n ≤ limit) :
    readWithPlus? limit (decimal n) = some n := by
  have hplus : '+' ∉ decimal n := notMem_decimal (by decide) n
  rw [← readDecimal?_decimal h]
  unfold readWithPlus?
  split
  · rename_i hcs
    rw [hcs] at hplus
    exact absurd List.mem_cons_self hplus
  · rfl

lemma trim_decimal : trim (decimal n) = decimal n := by
  have hmarks : ([] : List Char).any isBlank = false := rfl
  exact trim_eq_of_marks hmarks fun _ hc _ => (isNumeral_decimal n).notMem (by decide) hc

lemma compile_rfc (hn : n ≤ 4294967295) (h : (Registry.networks? n).isSome) :
    Filter.compile engine .rfc (toString n) = .ok (.rfcs [n]) := by
  have hrfc : Filter.parseRfc (toString n) = .ok n := by
    rw [Filter.parseRfc, toList_toString, trim_decimal, readWithPlus?_decimal hn]
    exact if_pos h
  have hbar : '|' ∉ (toString n).toList := toList_toString n ▸ notMem_decimal (by decide) n
  rw [Filter.compile, Filter.tokens_of_notMem hbar, List.mapM_cons, hrfc]
  rfl

lemma parse_rfc : Selector.parse "rfc" = .ok .rfc := by
  decide +kernel

lemma includeBy_rfc (hn : n ≤ 4294967295) (h : (Registry.networks? n).isSome) (rs : List Record) :
    includeBy engine "rfc" (toString n) rs = .ok (rs.filter (Registry.holds n ·.address)) := by
  rw [includeBy_eq_ok parse_rfc (compile_rfc hn h) fun _ _ => rfl]
  exact congrArg Except.ok (List.filter_congr fun r _ => Bool.or_false _)

lemma excludeBy_rfc (hn : n ≤ 4294967295) (h : (Registry.networks? n).isSome) (rs : List Record) :
    excludeBy engine "rfc" (toString n) rs = .ok (rs.filter (!Registry.holds n ·.address)) := by
  rw [excludeBy_eq_ok parse_rfc (compile_rfc hn h) fun _ _ => rfl]
  exact congrArg Except.ok (List.filter_congr fun r _ => congrArg _ (Bool.or_false _))

end

lemma trimmed_text {a : SocketAddress} (hip : a.isIP) : Filter.trimmed a.text = a.text := by
  have htrim : trim a.text.toList = a.text.toList :=
    trim_eq_of_marks (by decide) fun _ hc hmark => SocketAddress.notMem_text hip hc hmark
  rw [Filter.trimmed, htrim, String.ofList_toList]

section

variable {nets : List SocketAddress}

/-- Networks as the parameter of a filter. -/
def networkParam (nets : List SocketAddress) : String :=
  "|".intercalate (nets.map SocketAddress.text)

/-- Networks that their texts name in full are the networks of the filter. -/
lemma compile_network (hne : nets ≠ []) (hnets : ∀ net ∈ nets, net.port? = some 0) :
    Filter.compile engine .network (networkParam nets) = .ok (.networks nets) := by
  have hbar : ∀ t ∈ nets.map SocketAddress.text, '|' ∉ t.toList := by
    intro t ht
    obtain ⟨net, hnet, rfl⟩ := List.mem_map.1 ht
    exact SocketAddress.notMem_text (SocketAddress.isIP_of_port (hnets net hnet)) rfl (by decide)
  have hparse : (nets.map SocketAddress.text).mapM
      (fun t => SocketAddress.parseIP (Filter.trimmed t)) = .ok nets := by
    rw [mapM_eq_ok_iff, List.forall₂_map_left_iff, List.forall₂_same]
    intro net hnet
    rw [trimmed_text (SocketAddress.isIP_of_port (hnets net hnet))]
    exact SocketAddress.parseIP_text_of_port (hnets net hnet)
  rw [Filter.compile, networkParam, Filter.tokens_intercalate (by simpa using hne) hbar, hparse]
  rfl

lemma parse_network : Selector.parse "network" = .ok .network := by
  decide +kernel

lemma includeBy_network (hne : nets ≠ []) (hnets : ∀ net ∈ nets, net.port? = some 0)
    (rs : List Record) :
    includeBy engine "network" (networkParam nets) rs =
      .ok (rs.filter fun r => nets.any (·.contains r.address)) :=
  includeBy_eq_ok parse_network (compile_network hne hnets) fun _ _ => rfl

lemma excludeBy_network (hne : nets ≠ []) (hnets : ∀ net ∈ nets, net.port? = some 0)
    (rs : List Record) :
    excludeBy engine "network" (networkParam nets) rs =
      .ok (rs.filter fun r => !nets.any (·.contains r.address)) :=
  excludeBy_eq_ok parse_network (compile_network hne hnets) fun _ _ => rfl

end

end HostAddr
