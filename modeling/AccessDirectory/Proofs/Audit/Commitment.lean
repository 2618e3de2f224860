import AccessDirectory.Proofs.Audit.Verification
import AccessDirectory.Proofs.Json.Canonical

/-! A signature commits to the whole of its record. The order of members does not matter to it, and two
records that share a right signature differ in nothing else, or else their canonical texts collide. -/

namespace AccessDirectory

namespace Text

theorem Hex.toBytes?_ofBytes (bs : List UInt8) : toBytes? (ofBytes bs).toList = some bs := by
  rw [ofBytes, String.toList_ofList]
  induction bs with
  | nil => rfl
  | cons b bs ih =>
    have hb : b.toNat < 256 := b.toNat_lt
    have hhigh := value?_digit (b.toNat / 16 % 16) (Nat.mod_lt _ (by decide))
    have hlow := value?_digit (b.toNat % 16) (Nat.mod_lt _ (by decide))
    have hbyte : UInt8.ofNat (16 * (b.toNat / 16 % 16) + b.toNat % 16) = b := by
      rw [show 16 * (b.toNat / 16 % 16) + b.toNat % 16 = b.toNat by omega, UInt8.ofNat_toNat]
    have hpair : fixed 2 b.toNat = [digit (b.toNat / 16 % 16), digit (b.toNat % 16)] := rfl
    rw [List.flatMap_cons, hpair]
    simp only [List.cons_append, List.nil_append, toBytes?, hhigh, hlow, ih, bind, Option.bind,
      pure, hbyte]

theorem Hex.ofBytes_injective {bs cs : List UInt8} (h : ofBytes bs = ofBytes cs) : bs = cs := by
  have hb := toBytes?_ofBytes bs
  rw [h, toBytes?_ofBytes] at hb
  exact (Option.some.inj hb).symm

theorem Utf8.encode_injective {s t : String} (h : encode s = encode t) : s = t := by
  have hs := decode?_encode s
  rw [h, decode?_encode] at hs
  exact (Option.some.inj hs).symm

end Text

namespace Audit
open Text Json

/-- Different canonical texts with one keyed hash. -/
def Collide (key : String) (v w : Json) : Prop :=
  Utf8.encode v.canonical ≠ Utf8.encode w.canonical ∧
    Hash.hmac (Utf8.encode key) (Utf8.encode v.canonical) =
      Hash.hmac (Utf8.encode key) (Utf8.encode w.canonical)

variable {key : String} {ms ns : Fields}

theorem canonical_eq_or_collide {v w : Json} (h : digest key v = digest key w) :
    v.canonical = w.canonical ∨ Collide key v w := by
  by_cases hc : v.canonical = w.canonical
  · exact .inl hc
  · exact .inr ⟨fun he => hc (Utf8.encode_injective he), Hex.ofBytes_injective h⟩

theorem checkRecord_eq_ok_true :
    checkRecord key (.obj ms) = .ok true ↔ key ≠ "" ∧
      ms.lookup "signature" = some (.str (digest key (.obj (unsigned ms)))) := by
  by_cases hc : (ms.lookup "signature").all (comparable key) = true
  · obtain ⟨b, hb, hiff⟩ := checkRecord_of_comparable hc
    rw [hb, ← hiff]
    simp
  · -- What cannot be compared is no digest, which is an ASCII text.
    cases hs : ms.lookup "signature" with
    | none => simp [hs] at hc
    | some signature =>
      rw [hs, Option.all_some, Bool.not_eq_true] at hc
      rw [checkRecord_of_not_comparable hs hc]
      constructor
      · intro h
        cases h
      · rintro ⟨-, h⟩
        cases h
        simp [comparable, isAscii_digest] at hc

theorem exact_unsigned (h : Exact (.obj ms)) : Exact (.obj (unsigned ms)) := by
  cases h with
  | obj distinct hms =>
    exact .obj (distinct.sublist (List.filter_sublist.map _)) fun m hm =>
      hms m (List.mem_of_mem_filter hm)

theorem sortedMembers_unsigned (ms : Fields) :
    sortedMembers (unsigned ms) = unsigned (sortedMembers ms) := by
  rw [sortedMembers_eq_map, sortedMembers_eq_map, unsigned, unsigned, List.filter_map]
  rfl

theorem reordered_unsigned (hm : Exact (.obj ms)) (hn : Exact (.obj ns))
    (h : Reordered (.obj ms) (.obj ns)) : Reordered (.obj (unsigned ms)) (.obj (unsigned ns)) := by
  rw [reordered_obj_iff (exact_unsigned hm) (exact_unsigned hn), sortedMembers_unsigned,
    sortedMembers_unsigned]
  exact ((reordered_obj_iff hm hn).1 h).filter _

theorem lookup_eq_some_iff_mem {key : String} {v : Json} (h : Exact (.obj ms)) :
    ms.lookup key = some v ↔ (key, v) ∈ ms := Table.get?_eq_some_iff ⟨ms, h.distinct⟩ key v

theorem lookup_str_of_reordered {key s : String} (hm : Exact (.obj ms)) (hn : Exact (.obj ns))
    (h : Reordered (.obj ms) (.obj ns)) (hs : ms.lookup key = some (.str s)) :
    ns.lookup key = some (.str s) := by
  have hmem : (key, Json.str s) ∈ sortedMembers ms := by
    rw [sortedMembers_eq_map]
    exact List.mem_map.2 ⟨_, (lookup_eq_some_iff_mem hm).1 hs, by simp [sorted]⟩
  rw [((reordered_obj_iff hm hn).1 h).mem_iff, sortedMembers_eq_map] at hmem
  obtain ⟨⟨k, v⟩, hmember, heq⟩ := List.mem_map.1 hmem
  obtain ⟨rfl, hv⟩ := Prod.mk.inj heq
  -- Nothing but a text has a text as its sorted form.
  have hstr : v = .str s := by
    cases v with
    | str t => simpa [sorted] using hv
    | _ => simp [sorted] at hv
  rw [lookup_eq_some_iff_mem hn, ← hstr]
  exact hmember

theorem checkRecord_of_reordered (hm : Exact (.obj ms)) (hn : Exact (.obj ns))
    (h : Reordered (.obj ms) (.obj ns)) (hok : checkRecord key (.obj ms) = .ok true) :
    checkRecord key (.obj ns) = .ok true := by
  obtain ⟨hkey, hs⟩ := checkRecord_eq_ok_true.1 hok
  have hcanonical := (canonical_eq_iff (exact_unsigned hm) (exact_unsigned hn)).2
    (reordered_unsigned hm hn h)
  have hs' := lookup_str_of_reordered hm hn h hs
  refine checkRecord_eq_ok_true.2 ⟨hkey, ?_⟩
  rwa [digest, hcanonical] at hs'

theorem perm_cons_unsigned {v : Json} (distinct : (ms.map (·.1)).Nodup)
    (hs : ms.lookup "signature" = some v) : ms.Perm (("signature", v) :: unsigned ms) := by
  induction ms with
  | nil => cases hs
  | cons m rest ih =>
    simp only [List.map_cons, List.nodup_cons] at distinct
    by_cases hkey : m.1 = "signature"
    · -- The keys behind the signature are others, so that all of them stay.
      have hrest : unsigned rest = rest := by
        refine List.filter_eq_self.2 fun n hn => ?_
        have hne : n.1 ≠ "signature" := by
          intro heq
          exact distinct.1 (hkey ▸ heq ▸ List.mem_map_of_mem hn)
        simpa using hne
      have hm : m = ("signature", v) := by grind
      rw [unsigned, List.filter_cons_of_neg (by simp [hkey]), ← unsigned, hrest, hm]
    · have hlookup : rest.lookup "signature" = some v := by grind
      have hrest := ih distinct.2 hlookup
      rw [unsigned, List.filter_cons_of_pos (by simpa using hkey), ← unsigned]
      exact (hrest.cons m).trans (.swap ..)

theorem reordered_of_unsigned {v : Json} (hm : Exact (.obj ms)) (hn : Exact (.obj ns))
    (hms : ms.lookup "signature" = some v) (hns : ns.lookup "signature" = some v)
    (h : Reordered (.obj (unsigned ms)) (.obj (unsigned ns))) :
    Reordered (.obj ms) (.obj ns) := by
  have hperm := (reordered_obj_iff (exact_unsigned hm) (exact_unsigned hn)).1 h
  have hm' := (perm_cons_unsigned hm.distinct hms).map fun m => (m.1, m.2.sorted)
  have hn' := (perm_cons_unsigned hn.distinct hns).map fun m => (m.1, m.2.sorted)
  rw [reordered_obj_iff hm hn]
  simp only [sortedMembers_eq_map, List.map_cons] at hperm hm' hn' ⊢
  exact hm'.trans ((hperm.cons _).trans hn'.symm)

theorem reordered_or_collide (hm : Exact (.obj ms)) (hn : Exact (.obj ns))
    (hmok : checkRecord key (.obj ms) = .ok true) (hnok : checkRecord key (.obj ns) = .ok true)
    (h : ms.lookup "signature" = ns.lookup "signature" ∨
      Reordered (.obj (unsigned ms)) (.obj (unsigned ns))) :
    Reordered (.obj ms) (.obj ns) ∨ Collide key (.obj (unsigned ms)) (.obj (unsigned ns)) := by
  have hu := canonical_eq_iff (exact_unsigned hm) (exact_unsigned hn)
  obtain ⟨-, hms⟩ := checkRecord_eq_ok_true.1 hmok
  obtain ⟨-, hns⟩ := checkRecord_eq_ok_true.1 hnok
  -- Of the two, whatever agrees fixes the rest: the signature by its digest, the members by their text.
  rcases h with hsame | hothers
  · rw [hms, hns] at hsame
    rcases canonical_eq_or_collide (Json.str.inj (Option.some.inj hsame)) with hc | hc
    · refine .inl (reordered_of_unsigned hm hn hms ?_ (hu.1 hc))
      rw [hns, digest, digest, hc]
    · exact .inr hc
  · refine .inl (reordered_of_unsigned hm hn hms ?_ hothers)
    rw [hns, digest, digest, hu.2 hothers]

/-- Canonical texts are the same just for values that are equal up to the order of members. So a rightly
signed record stays right under any order of its members, and one whose signature or whose other
members were changed is not right, unless two canonical texts collide. -/
theorem canonical_commits {v w : Json} (hv : v.Exact) (hw : w.Exact) :
    (v.canonical = w.canonical ↔ v.Reordered w) ∧
      ∀ ms ns, v = .obj ms → w = .obj ns → ∀ key,
        (v.Reordered w → (checkRecord key v = .ok true ↔ checkRecord key w = .ok true)) ∧
        (checkRecord key v = .ok true → checkRecord key w = .ok true →
          ms.lookup "signature" = ns.lookup "signature" ∨
            Reordered (.obj (unsigned ms)) (.obj (unsigned ns)) →
          v.Reordered w ∨ Collide key (.obj (unsigned ms)) (.obj (unsigned ns))) := by
  refine ⟨canonical_eq_iff hv hw, ?_⟩
  rintro ms ns rfl rfl key
  refine ⟨fun h => ⟨checkRecord_of_reordered hv hw h, checkRecord_of_reordered hw hv h.symm⟩, ?_⟩
  exact reordered_or_collide hv hw

def signedRecord : Fields :=
  [("success", .bool true), ("signature", .str (digest "key" (.obj [("success", .bool true)])))]

theorem canonical_commits_reverse :
    checkRecord "key" (.obj signedRecord) = .ok true ∧
      checkRecord "key" (.obj signedRecord.reverse) = .ok true := by
  have hexact : Exact (.obj signedRecord) := by
    refine .obj (by decide) fun m hm => ?_
    simp only [signedRecord, List.mem_cons, List.not_mem_nil, or_false] at hm
    rcases hm with rfl | rfl
    · exact .bool true
    · exact .str _
  have hreverse : Reordered (.obj signedRecord) (.obj signedRecord.reverse) :=
    .members (List.reverse_perm _).symm
  have hok : checkRecord "key" (.obj signedRecord) = .ok true :=
    checkRecord_eq_ok_true.2 ⟨by decide, rfl⟩
  have h := (canonical_commits hexact (hexact.of_reordered hreverse)).2 _ _ rfl rfl "key"
  exact ⟨hok, (h.1 hreverse).1 hok⟩

end Audit

end AccessDirectory
