import Mathlib.NumberTheory.LucasPrimality
import SeedVault.Curve.Secp256k1

/-!
# The two orders are prime

The order of the field and the order of the group are prime (`prime_fieldOrder`,
`prime_groupOrder`). A number is prime if some element has one less than the number as its order,
for which it is enough to know the prime factors of that order. `primeEntries` gives element and
factors for the two orders and for all factors that turn up, and `prime_of_mem_checked` evaluates
them.
-/

namespace SeedVault.Secp256k1

/-- Powers modulo `m` are what they are called. -/
lemma powMod_eq (m base exponent) : powMod m base exponent = base ^ exponent % m := by
  fun_induction powMod m base exponent with
  | case1 base => rw [Nat.pow_zero]
  | case2 base exponent _ half even ih =>
    calc half = (base * base % m) ^ (exponent / 2) % m := ih
      _ = base ^ (2 * (exponent / 2)) % m := by rw [← Nat.pow_mod, ← pow_two, ← Nat.pow_mul]
      _ = base ^ exponent % m := by rw [show 2 * (exponent / 2) = exponent by omega]
  | case3 base exponent _ half odd ih =>
    calc base * half % m = base * ((base * base % m) ^ (exponent / 2) % m) % m := by rw [← ih]
      _ = base * base ^ (2 * (exponent / 2)) % m := by
        rw [← Nat.pow_mod, Nat.mul_mod_mod, ← pow_two, ← Nat.pow_mul]
      _ = base ^ exponent % m := by
        rw [← Nat.pow_succ', show (2 * (exponent / 2)).succ = exponent by omega]

/-- The power modulo `m`, by recursion on the number of bits that the exponent may have. -/
def powBits (m : Nat) : (bits base exponent : Nat) → Nat
  | 0, _, _ => 1 % m
  | bits + 1, base, exponent =>
    if exponent = 0 then 1 % m
    else
      let half := powBits m bits (base * base % m) (exponent / 2)
      if exponent % 2 = 0 then half else base * half % m

/-- A power taken over enough bits is the power. -/
lemma powBits_eq_powMod (m base) {bits exponent} (lt : exponent < 2 ^ bits) :
    powBits m bits base exponent = powMod m base exponent := by
  induction bits generalizing base exponent with
  | zero =>
    rw [Nat.lt_one_iff.1 lt, powMod, if_pos rfl, powBits]
  | succ bits ih =>
    have half : exponent / 2 < 2 ^ bits := by
      rw [Nat.pow_succ] at lt
      omega
    rw [powBits, powMod, ih _ half]

/-- A number, an element that is to have the number less one as its order, and the prime factors of
that order. -/
structure PrimeEntry where
  number : Nat
  root : Nat
  factors : List Nat

/-- Does the entry show that its number is prime, given that those in `known` are? -/
def PrimeEntry.holds (known : List Nat) (e : PrimeEntry) : Bool :=
  1 < e.number && e.number < 2 ^ 256 && e.factors.all (· ∈ known) &&
    e.factors.foldr (· * ·) 1 = e.number - 1 &&
    powBits e.number 256 e.root (e.number - 1) = 1 &&
    e.factors.all fun q => powBits e.number 256 e.root ((e.number - 1) / q) ≠ 1

/-- Does each entry hold, given the numbers in `known` and of the entries before it? -/
def checked (known : List Nat) : List PrimeEntry → Bool
  | [] => true
  | e :: es => e.holds known && checked (e.number :: known) es

/-- The entries for the two orders, each behind those of its factors. -/
def primeEntries : List PrimeEntry :=
  [⟨2, 1, []⟩, ⟨3, 2, [2]⟩, ⟨5, 2, [2, 2]⟩, ⟨7, 3, [2, 3]⟩, ⟨11, 2, [2, 5]⟩, ⟨13, 2, [2, 2, 3]⟩,
   ⟨17, 3, [2, 2, 2, 2]⟩, ⟨19, 2, [2, 3, 3]⟩, ⟨23, 5, [2, 11]⟩, ⟨29, 2, [2, 2, 7]⟩,
   ⟨31, 3, [2, 3, 5]⟩, ⟨37, 2, [2, 2, 3, 3]⟩, ⟨41, 6, [2, 2, 2, 5]⟩, ⟨53, 2, [2, 2, 13]⟩,
   ⟨59, 2, [2, 29]⟩, ⟨67, 2, [2, 3, 11]⟩, ⟨73, 5, [2, 2, 2, 3, 3]⟩, ⟨83, 2, [2, 41]⟩,
   ⟨97, 5, [2, 2, 2, 2, 2, 3]⟩, ⟨101, 2, [2, 2, 5, 5]⟩, ⟨103, 5, [2, 3, 17]⟩,
   ⟨109, 6, [2, 2, 3, 3, 3]⟩, ⟨113, 3, [2, 2, 2, 2, 7]⟩, ⟨131, 2, [2, 5, 13]⟩, ⟨149, 2, [2, 2, 37]⟩,
   ⟨199, 3, [2, 3, 3, 11]⟩, ⟨239, 7, [2, 7, 17]⟩, ⟨271, 6, [2, 3, 3, 3, 5]⟩, ⟨293, 2, [2, 2, 73]⟩,
   ⟨419, 2, [2, 11, 19]⟩, ⟨443, 2, [2, 13, 17]⟩, ⟨461, 2, [2, 2, 5, 23]⟩, ⟨631, 3, [2, 3, 3, 5, 7]⟩,
   ⟨797, 2, [2, 2, 199]⟩, ⟨887, 5, [2, 443]⟩, ⟨971, 6, [2, 5, 97]⟩, ⟨1373, 2, [2, 2, 7, 7, 7]⟩,
   ⟨1409, 3, [2, 2, 2, 2, 2, 2, 2, 11]⟩, ⟨1627, 3, [2, 3, 271]⟩, ⟨1871, 14, [2, 5, 11, 17]⟩,
   ⟨2011, 3, [2, 3, 5, 67]⟩, ⟨2621, 2, [2, 2, 5, 131]⟩, ⟨2657, 3, [2, 2, 2, 2, 2, 83]⟩,
   ⟨2731, 3, [2, 3, 5, 7, 13]⟩, ⟨2861, 2, [2, 2, 5, 11, 13]⟩, ⟨4051, 10, [2, 3, 3, 3, 3, 5, 5]⟩,
   ⟨4423, 3, [2, 3, 11, 67]⟩, ⟨5323, 5, [2, 3, 887]⟩, ⟨7723, 3, [2, 3, 3, 3, 11, 13]⟩,
   ⟨9349, 2, [2, 2, 3, 19, 41]⟩, ⟨13441, 11, [2, 2, 2, 2, 2, 2, 2, 3, 5, 7]⟩,
   ⟨16699, 3, [2, 3, 11, 11, 23]⟩, ⟨20113, 10, [2, 2, 2, 2, 3, 419]⟩, ⟨24809, 6, [2, 2, 2, 7, 443]⟩,
   ⟨28181, 2, [2, 2, 5, 1409]⟩, ⟨41201, 3, [2, 2, 2, 2, 5, 5, 103]⟩, ⟨85831, 3, [2, 3, 5, 2861]⟩,
   ⟨96557, 2, [2, 2, 101, 239]⟩, ⟨120233, 3, [2, 2, 2, 7, 19, 113]⟩,
   ⟨305873, 3, [2, 2, 2, 2, 7, 2731]⟩, ⟨1206781, 10, [2, 2, 3, 5, 20113]⟩,
   ⟨1627771, 3, [2, 3, 5, 29, 1871]⟩, ⟨4681609, 23, [2, 2, 2, 3, 97, 2011]⟩,
   ⟨7240687, 3, [2, 3, 1206781]⟩, ⟨13331831, 13, [2, 5, 971, 1373]⟩,
   ⟨44706919, 6, [2, 3, 797, 9349]⟩, ⟨107590001, 3, [2, 2, 2, 2, 5, 5, 5, 5, 7, 29, 53]⟩,
   ⟨545358713, 5, [2, 2, 2, 41, 59, 28181]⟩, ⟨297159362677, 2, [2, 2, 3, 3, 11, 461, 1627771]⟩,
   ⟨107361793816595537, 3, [2, 2, 2, 2, 16699, 85831, 4681609]⟩,
   ⟨173378833005251801, 6, [2, 2, 2, 5, 5, 2621, 24809, 13331831]⟩,
   ⟨174723607534414371449, 3, [2, 2, 2, 17, 59, 4051, 120233, 44706919]⟩,
   ⟨22149492674086928081353, 5, [2, 2, 2, 3, 5323, 173378833005251801]⟩,
   ⟨132896956044521568488119, 6, [2, 3, 22149492674086928081353]⟩,
   ⟨29047611873442575647497758179, 2, [2, 293, 305873, 545358713, 297159362677]⟩,
   ⟨341948486974166000522343609283189, 2, [2, 2, 3, 3, 3, 109, 29047611873442575647497758179]⟩,
   ⟨255515944373312847190720520512484175977, 3,
     [2, 2, 2, 7, 7, 11, 1627, 2657, 4423, 41201, 96557, 7240687, 107590001]⟩,
   ⟨205115282021455665897114700593932402728804164701536103180137503955397371, 10,
     [2, 3, 5, 29, 29, 31, 7723, 132896956044521568488119,
      255515944373312847190720520512484175977]⟩,
   ⟨115792089237316195423570985008687907852837564279074904382605163141518161494337, 7,
     [2, 2, 2, 2, 2, 2, 3, 149, 631, 107361793816595537, 174723607534414371449,
      341948486974166000522343609283189]⟩,
   ⟨115792089237316195423570985008687907853269984665640564039457584007908834671663, 3,
     [2, 3, 7, 13441, 205115282021455665897114700593932402728804164701536103180137503955397371]⟩]

/-- Each entry of the table passes its check on the ones in front of it. -/
lemma checked_primeEntries : checked [] primeEntries = true := by
  decide +kernel

/-- A prime that divides a product of primes is one of them. -/
lemma mem_of_dvd_product {q : Nat} {factors : List Nat} (hq : q.Prime)
    (primes : ∀ f ∈ factors, f.Prime) (dvd : q ∣ factors.foldr (· * ·) 1) : q ∈ factors := by
  induction factors with
  | nil => exact absurd (Nat.dvd_one.1 dvd) hq.ne_one
  | cons f factors ih =>
    obtain ⟨first, primes⟩ := List.forall_mem_cons.1 primes
    rcases hq.dvd_mul.1 dvd with dvd | dvd
    · rw [(Nat.prime_dvd_prime_iff_eq hq first).1 dvd]
      exact List.mem_cons_self
    · exact List.mem_cons_of_mem f (ih primes dvd)

/-- The number of an entry that holds is prime. -/
lemma PrimeEntry.prime {known} {e : PrimeEntry} (primes : ∀ q ∈ known, q.Prime)
    (h : e.holds known = true) : e.number.Prime := by
  simp only [holds, Bool.and_eq_true, decide_eq_true_iff, List.all_eq_true] at h
  obtain ⟨⟨⟨⟨⟨large, bounded⟩, listed⟩, product⟩, whole⟩, parts⟩ := h
  have power : ∀ k ≤ e.number - 1,
      (e.root : ZMod e.number) ^ k = 1 ↔ powBits e.number 256 e.root k = 1 := by
    intro k le
    rw [powBits_eq_powMod _ _ (by omega), powMod_eq, ← Nat.cast_pow, ← Nat.cast_one,
      ZMod.natCast_eq_natCast_iff', Nat.mod_eq_of_lt large]
  refine lucas_primality e.number e.root ((power _ (Nat.le_refl _)).2 whole) ?_
  intro q hq dvd root
  rw [← product] at dvd
  have mem := mem_of_dvd_product hq (fun f mem => primes f (listed f mem)) dvd
  exact parts q mem ((power _ (Nat.div_le_self _ _)).1 root)

/-- The numbers of entries that are checked are prime. -/
lemma prime_of_mem_checked {known es} (primes : ∀ q ∈ known, q.Prime)
    (h : checked known es = true) : ∀ e ∈ es, e.number.Prime := by
  induction es generalizing known with
  | nil => exact List.forall_mem_nil _
  | cons e es ih =>
    rw [checked, Bool.and_eq_true] at h
    have first := e.prime primes h.1
    exact List.forall_mem_cons.2 ⟨first, ih (List.forall_mem_cons.2 ⟨first, primes⟩) h.2⟩

/-- The numbers in the table are primes. -/
lemma prime_of_mem_numbers {p} (mem : p ∈ primeEntries.map PrimeEntry.number) : p.Prime := by
  obtain ⟨e, he, rfl⟩ := List.mem_map.1 mem
  exact prime_of_mem_checked (List.forall_mem_nil _) checked_primeEntries e he

/-- The order of the field is a prime. -/
lemma prime_fieldOrder : fieldOrder.Prime := prime_of_mem_numbers (by decide +kernel)

/-- The order of the group is a prime. -/
lemma prime_groupOrder : groupOrder.Prime := prime_of_mem_numbers (by decide +kernel)

end SeedVault.Secp256k1
