import AccessDirectory.Text.Base64Url

/-! Reading undoes writing in base64: what is written consists of digits alone, three bytes to four of
them, and is read back as the bytes. -/

namespace AccessDirectory.Text.Base64Url

def sextets : List UInt8 → List Nat
  | [] => []
  | [a] => [a.toNat / 4, a.toNat % 4 * 16]
  | [a, b] => [a.toNat / 4, a.toNat % 4 * 16 + b.toNat / 16, b.toNat % 16 * 4]
  | a :: b :: c :: rest =>
    a.toNat / 4 :: (a.toNat % 4 * 16 + b.toNat / 16) :: (b.toNat % 16 * 4 + c.toNat / 64) ::
      c.toNat % 64 :: sextets rest

theorem encode_eq_map (bs : List UInt8) : encode bs = (sextets bs).map digit := by
  fun_induction sextets bs with
  | case1 | case2 | case3 => rfl
  | case4 a b c rest ih => rw [encode, ih]; rfl

theorem sextets_lt (bs : List UInt8) : ∀ n ∈ sextets bs, n < 64 := by
  fun_induction sextets bs with
  | case1 => simp
  | case2 a =>
    have := a.toNat_lt
    simp only [List.mem_cons, List.not_mem_nil, or_false, forall_eq_or_imp, forall_eq]
    omega
  | case3 a b =>
    have := a.toNat_lt
    have := b.toNat_lt
    simp only [List.mem_cons, List.not_mem_nil, or_false, forall_eq_or_imp, forall_eq]
    omega
  | case4 a b c rest ih =>
    have := a.toNat_lt
    have := b.toNat_lt
    have := c.toNat_lt
    simp only [List.mem_cons, forall_eq_or_imp]
    refine ⟨?_, ?_, ?_, ?_, ih⟩ <;> omega

theorem pack_sextets (bs : List UInt8) : pack (sextets bs) = some bs := by
  have byte : ∀ {n : Nat} {b : UInt8}, n = b.toNat → UInt8.ofNat n = b := by
    rintro n b rfl
    exact UInt8.ofNat_toNat
  fun_induction sextets bs with
  | case1 => rfl
  | case2 a =>
    rw [pack, byte (b := a)]
    omega
  | case3 a b =>
    have := b.toNat_lt
    rw [pack, byte (b := a), byte (b := b)] <;> omega
  | case4 a b c rest ih =>
    have := b.toNat_lt
    have := c.toNat_lt
    rw [pack, ih, Option.map_some, byte (b := a), byte (b := b), byte (b := c)] <;> omega

theorem mapM_value?_digits {ns : List Nat} (h : ∀ n ∈ ns, n < 64) :
    (ns.map digit).mapM value? = some ns := by
  induction ns with
  | nil => rfl
  | cons n rest ih =>
    rw [List.map_cons, List.mapM_cons, value?_digit n (h n List.mem_cons_self),
      ih fun m hm => h m (List.mem_cons_of_mem _ hm)]
    rfl

theorem not_mem_encode {c : Char} (hc : value? c = none) (bs : List UInt8) : c ∉ encode bs := by
  rw [encode_eq_map]
  intro hmem
  obtain ⟨n, hn, rfl⟩ := List.mem_map.1 hmem
  rw [value?_digit n (sextets_lt bs n hn)] at hc
  cases hc

theorem unpadded?_of_not_mem {cs : List Char} (h : '=' ∉ cs) : unpadded? cs = some cs := by
  have hbody : cs.reverse.dropWhile (· == '=') = cs.reverse := by
    cases hr : cs.reverse with
    | nil => rfl
    | cons c rest =>
      have hne : c ≠ '=' := by
        rintro rfl
        exact h (List.mem_reverse.1 (hr ▸ List.mem_cons_self))
      rw [List.dropWhile_cons, if_neg (by simpa using hne)]
  simp [unpadded?, hbody]

theorem decode?_encode (bs : List UInt8) : decode? (encode bs) = some bs := by
  have hread : (encode bs).mapM value? = some (sextets bs) := by
    rw [encode_eq_map, mapM_value?_digits (sextets_lt bs)]
  rw [decode?, unpadded?_of_not_mem (not_mem_encode (by decide) bs)]
  simp [hread, pack_sextets]

end AccessDirectory.Text.Base64Url
