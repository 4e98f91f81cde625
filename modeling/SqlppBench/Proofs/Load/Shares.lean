import Mathlib.Data.List.Chain
import Mathlib.Data.List.Nodup
import Mathlib.Data.List.Perm.Basic
import Mathlib.Data.List.Sort
import SqlppBench.Load
import SqlppBench.Proofs.Text.Numeral

/-! # The shares of the clients

The records of a load are numbered, and each client takes the numbers that leave its own number when
they are divided by the number of clients. So every record belongs to exactly one client
(`perm_range_clientNumbers`), and as no two records have the same key, the clients share the keys
out (`SharesOut`). They can count their numbers in words of 64 bits: no number that is counted is
too large for a word, only what would follow the last one may be (`map_toNat_numbersFrom`).
-/

namespace SqlppBench

namespace Load

variable {l : Load}

/-! ## Numbers -/

/-- How far the numbers of a client go. -/
theorem lt_share_iff (h : 0 < l.clients) (client i : Nat) :
    i < l.share client ↔ client + i * l.clients < l.records := by
  rw [share, ← Nat.succ_le_iff, Nat.le_div_iff_mul_le h, Nat.succ_mul]
  omega

/-- The numbers of a client are those of its residue class. -/
theorem mem_clientNumbers {client : Nat} (h : client < l.clients) (n : Nat) :
    n ∈ l.clientNumbers client ↔ n < l.records ∧ n % l.clients = client := by
  have some : 0 < l.clients := Nat.zero_lt_of_lt h
  simp only [clientNumbers, List.mem_map, List.mem_range, lt_share_iff some]
  constructor
  · rintro ⟨i, hi, rfl⟩
    exact ⟨hi, by rw [Nat.add_mul_mod_self_right, Nat.mod_eq_of_lt h]⟩
  · rintro ⟨hn, rfl⟩
    have hdiv := Nat.mod_add_div' n l.clients
    exact ⟨n / l.clients, by rwa [hdiv], hdiv⟩

/-- A client takes its numbers in ascending order. -/
theorem pairwise_clientNumbers (h : 0 < l.clients) (client : Nat) :
    (l.clientNumbers client).Pairwise (· < ·) := by
  refine List.pairwise_lt_range.map _ ?_
  intro i j hij
  exact Nat.add_lt_add_left (Nat.mul_lt_mul_of_pos_right hij h) client

/-- A client takes no number twice. -/
theorem nodup_clientNumbers (h : 0 < l.clients) (client : Nat) :
    (l.clientNumbers client).Nodup :=
  (pairwise_clientNumbers h client).imp Nat.ne_of_lt

/-- The numbers of a client are picked out of all numbers as they stand. -/
theorem clientNumbers_eq_filter {client : Nat} (h : client < l.clients) :
    l.clientNumbers client = (List.range l.records).filter fun n => n % l.clients = client := by
  have ascending := pairwise_clientNumbers (Nat.zero_lt_of_lt h) client
  refine ascending.eq_of_mem_iff (List.pairwise_lt_range.filter _) fun n => ?_
  rw [mem_clientNumbers h, List.mem_filter, List.mem_range, decide_eq_true_iff]

/-- The numbers of a client follow each other at the distance of the number of clients. -/
theorem isChain_clientNumbers (l : Load) (client : Nat) :
    (l.clientNumbers client).IsChain fun m n => n = m + l.clients := by
  rw [List.isChain_iff_getElem]
  intro i hi
  simp only [clientNumbers, List.getElem_map, List.getElem_range, Nat.succ_mul, Nat.add_assoc]

/-- Two clients have no number in common. -/
theorem disjoint_clientNumbers {c d : Nat} (hc : c < l.clients) (hd : d < l.clients)
    (hne : c ≠ d) : List.Disjoint (l.clientNumbers c) (l.clientNumbers d) := by
  intro n hnc hnd
  rw [mem_clientNumbers hc] at hnc
  rw [mem_clientNumbers hd] at hnd
  exact hne (hnc.2.symm.trans hnd.2)

/-- Each record is taken by exactly one client. -/
theorem perm_range_clientNumbers (h : 0 < l.clients) :
    ((List.range l.clients).flatMap l.clientNumbers).Perm (List.range l.records) := by
  have disjoint : (List.range l.clients).Pairwise
      fun c d => List.Disjoint (l.clientNumbers c) (l.clientNumbers d) := by
    refine List.nodup_range.imp_of_mem ?_
    intro c d hc hd hne
    exact disjoint_clientNumbers (List.mem_range.1 hc) (List.mem_range.1 hd) hne
  have distinct : ((List.range l.clients).flatMap l.clientNumbers).Nodup :=
    List.nodup_flatMap.2 ⟨fun c _ => nodup_clientNumbers h c, disjoint⟩
  refine (List.perm_ext_iff_of_nodup distinct List.nodup_range).2 fun n => ?_
  rw [List.mem_flatMap, List.mem_range]
  constructor
  · rintro ⟨c, hc, hn⟩
    exact ((mem_clientNumbers (List.mem_range.1 hc) n).1 hn).1
  · intro hn
    have hmod := Nat.mod_lt n h
    exact ⟨n % l.clients, List.mem_range.2 hmod, (mem_clientNumbers hmod n).2 ⟨hn, rfl⟩⟩

/-- No client has two records more than another one. -/
theorem share_le_share_add_one {c d : Nat} (hd : d < l.clients) :
    l.share c ≤ l.share d + 1 := by
  have some : 0 < l.clients := Nat.zero_lt_of_lt hd
  by_contra hlong
  -- the number of `c` behind its numbers that `d` has too would still be one of the records
  have inside := (lt_share_iff some c (l.share d + 1)).1 (Nat.lt_of_not_le hlong)
  have outside := mt (lt_share_iff some d (l.share d)).2 (Nat.lt_irrefl _)
  rw [Nat.succ_mul] at inside
  omega

/-! ## Keys -/

/-- No two records have the same key, whatever the keys begin with. -/
theorem key_injective (l : Load) : Function.Injective l.key := by
  intro m n hkey
  exact Text.decimal_injective ((String.append_right_inj l.keyPrefix).1 hkey)

/-- The clients insert the records of all keys, each of them once. -/
theorem perm_clientKeys (h : 0 < l.clients) :
    ((List.range l.clients).flatMap l.clientKeys).Perm ((List.range l.records).map l.key) := by
  have hnumbers : (List.range l.clients).flatMap l.clientKeys =
      ((List.range l.clients).flatMap l.clientNumbers).map l.key := by
    rw [List.map_flatMap]
    rfl
  rw [hnumbers]
  exact (perm_range_clientNumbers h).map l.key

theorem length_clientKeys (l : Load) (client : Nat) :
    (l.clientKeys client).length = l.share client := by
  rw [clientKeys, List.length_map, clientNumbers, List.length_map, List.length_range]

/-! ## Counting in words -/

/-- So many numbers from `n` on, each a step behind the one before it, as they are counted in words:
a sum that is too large begins again at zero. -/
def numbersFrom (step n : UInt64) : Nat → List UInt64
  | 0 => []
  | count + 1 => n :: numbersFrom step (n + step) count

/-- How many steps begin between `n` and `bound`: a quotient of words that is rounded up without a
sum that could be too large. -/
def stepsTo (bound step n : UInt64) : UInt64 :=
  if bound ≤ n then 0
  else (bound - n) / step + if (bound - n) % step = 0 then 0 else 1

/-- The numbers of a client as they are counted in words. -/
def wordNumbers (l : Load) (client : Nat) : List UInt64 :=
  let step := UInt64.ofNat l.clients
  let first := UInt64.ofNat client
  numbersFrom step first (stepsTo (.ofNat l.records) step first).toNat

/-- Where every number that is counted fits into a word, words make no difference. -/
theorem map_toNat_numbersFrom {step n : UInt64} {count : Nat}
    (fits : ∀ i < count, n.toNat + i * step.toNat < UInt64.size) :
    (numbersFrom step n count).map UInt64.toNat =
      (List.range count).map fun i => n.toNat + i * step.toNat := by
  induction count generalizing n with
  | zero => rfl
  | succ count ih =>
      rw [numbersFrom, List.map_cons, List.range_succ_eq_map, List.map_cons, List.map_map,
        Nat.zero_mul, Nat.add_zero]
      congr 1
      cases count with
      | zero => rfl
      | succ count =>
          -- another number follows, so this sum is one of those that fit
          have next : (n + step).toNat = n.toNat + step.toNat := by
            have hone := fits 1 (Nat.succ_lt_succ count.succ_pos)
            rw [Nat.one_mul] at hone
            rw [UInt64.toNat_add, Nat.mod_eq_of_lt hone]
          have shift (i : Nat) :
              (n + step).toNat + i * step.toNat = n.toNat + (i + 1) * step.toNat := by
            rw [next, Nat.succ_mul]
            omega
          rw [ih fun i hi => shift i ▸ fits (i + 1) (Nat.succ_lt_succ hi)]
          exact List.map_congr_left fun i _ => shift i

/-- A quotient that is rounded up is one more where something is left over. -/
theorem add_sub_one_div {step : Nat} (h : 0 < step) (n : Nat) :
    (n + step - 1) / step = n / step + if n % step = 0 then 0 else 1 := by
  have hsplit : n + step - 1 = step * (n / step) + (n % step + step - 1) := by
    have hdiv := Nat.div_add_mod n step
    omega
  have hmod := Nat.mod_lt n h
  rw [hsplit, Nat.mul_add_div h]
  congr 1
  split
  · rename_i hzero
    exact Nat.div_eq_of_lt (by omega)
  · rename_i hleft
    exact Nat.div_eq_of_lt_le (by omega) (by omega)

/-- The steps between two words are as many as between the numbers that they are. -/
theorem toNat_stepsTo {bound step n : UInt64} (h : 0 < step.toNat) :
    (stepsTo bound step n).toNat = (bound.toNat - n.toNat + step.toNat - 1) / step.toNat := by
  unfold stepsTo
  split
  · rename_i hle
    rw [UInt64.le_iff_toNat_le] at hle
    exact (Nat.div_eq_of_lt (by omega)).symm
  · rename_i hlt
    have hle : n ≤ bound := UInt64.le_of_lt (UInt64.not_le.1 hlt)
    have hrest : (bound - n).toNat = bound.toNat - n.toNat := UInt64.toNat_sub_of_le _ _ hle
    have hzero : (bound - n) % step = 0 ↔ (bound.toNat - n.toNat) % step.toNat = 0 := by
      rw [← UInt64.toNat_inj, UInt64.toNat_mod, hrest]
      rfl
    have hrange := bound.toNat_lt
    have hdiv := Nat.div_add_mod (bound.toNat - n.toNat) step.toNat
    have hquotient := Nat.le_mul_of_pos_left ((bound.toNat - n.toNat) / step.toNat) h
    rw [add_sub_one_div h, UInt64.toNat_add, UInt64.toNat_div, hrest, if_congr hzero rfl rfl]
    -- where something is left over, the quotient is smaller than what was divided
    split
    · rw [UInt64.toNat_zero, Nat.mod_eq_of_lt (by omega)]
    · rw [UInt64.toNat_one, Nat.mod_eq_of_lt (by omega)]

/-- A client counts the same numbers in words. -/
theorem map_toNat_wordNumbers {client : Nat} (h : client < l.clients)
    (records : l.records < UInt64.size) (clients : l.clients < UInt64.size) :
    (l.wordNumbers client).map UInt64.toNat = l.clientNumbers client := by
  have hstep : (UInt64.ofNat l.clients).toNat = l.clients := UInt64.toNat_ofNat_of_lt' clients
  have hfirst : (UInt64.ofNat client).toNat = client :=
    UInt64.toNat_ofNat_of_lt' (Nat.lt_trans h clients)
  have hbound : (UInt64.ofNat l.records).toNat = l.records := UInt64.toNat_ofNat_of_lt' records
  have some : 0 < l.clients := Nat.zero_lt_of_lt h
  have hcount : (stepsTo (.ofNat l.records) (.ofNat l.clients) (.ofNat client)).toNat =
      l.share client := by
    rw [toNat_stepsTo (hstep.symm ▸ some), hstep, hfirst, hbound, share]
  rw [wordNumbers, hcount, map_toNat_numbersFrom, hstep, hfirst, clientNumbers]
  intro i hi
  rw [hstep, hfirst]
  exact Nat.lt_trans ((lt_share_iff some client i).1 hi) records

/-! ## Sharing out -/

/-- The clients of a load share its keys out among them. -/
structure SharesOut (l : Load) : Prop where
  /-- No two records have the same key. -/
  distinct : ((List.range l.records).map l.key).Nodup
  /-- The keys of all clients, one client after the other, are those of all records. -/
  all : ((List.range l.clients).flatMap l.clientKeys).Perm ((List.range l.records).map l.key)
  /-- No key is there twice. -/
  nodup : ((List.range l.clients).flatMap l.clientKeys).Nodup
  /-- The key of a record is inserted by one client and by no other. -/
  unique : ∀ n < l.records, ∃! c, c < l.clients ∧ l.key n ∈ l.clientKeys c
  disjoint : ∀ c < l.clients, ∀ d < l.clients, c ≠ d →
    (l.clientKeys c).Disjoint (l.clientKeys d)
  /-- A client inserts the records of its residue class in the order of their numbers. -/
  residues : ∀ c < l.clients,
    l.clientKeys c = ((List.range l.records).filter fun n => n % l.clients = c).map l.key
  /-- No client inserts two records more than another one. -/
  even : ∀ c < l.clients, ∀ d < l.clients,
    (l.clientKeys c).length ≤ (l.clientKeys d).length + 1
  /-- Words are enough to count the numbers of a client, and no step from one of them to the next is
  too large for a word. -/
  words : ∀ c < l.clients, l.clientKeys c = ((l.wordNumbers c).map UInt64.toNat).map l.key ∧
    (l.wordNumbers c).IsChain fun m n => n.toNat = m.toNat + l.clients

/-- Every key is inserted by exactly one client, whatever the numbers of records and of clients are,
and however the keys begin. -/
theorem clients_share_the_keys_out (some : 0 < l.clients) (clients : l.clients < UInt32.size)
    (records : l.records < UInt64.size) : l.SharesOut := by
  have distinct : ((List.range l.records).map l.key).Nodup :=
    List.nodup_range.map l.key_injective
  have all := perm_clientKeys some
  have disjoint {c d : Nat} (hc : c < l.clients) (hd : d < l.clients) (hne : c ≠ d) :
      (l.clientKeys c).Disjoint (l.clientKeys d) :=
    (disjoint_clientNumbers hc hd hne).map l.key_injective
  refine ⟨distinct, all, all.nodup_iff.2 distinct, ?_, fun c hc d hd => disjoint hc hd, ?_, ?_, ?_⟩
  · intro n hn
    have own : l.key n ∈ l.clientKeys (n % l.clients) :=
      List.mem_map_of_mem ((mem_clientNumbers (Nat.mod_lt n some) n).2 ⟨hn, rfl⟩)
    refine ⟨n % l.clients, ⟨Nat.mod_lt n some, own⟩, ?_⟩
    rintro c ⟨hc, hmem⟩
    by_contra hne
    exact disjoint hc (Nat.mod_lt n some) hne hmem own
  · intro c hc
    rw [clientKeys, clientNumbers_eq_filter hc]
  · intro c hc d hd
    rw [length_clientKeys, length_clientKeys]
    exact share_le_share_add_one hd
  · intro c hc
    have words := map_toNat_wordNumbers hc records (Nat.lt_trans clients (by decide))
    refine ⟨by rw [words, clientKeys], ?_⟩
    have steps := l.isChain_clientNumbers c
    rwa [← words, List.isChain_map] at steps

/-- Where records and clients are as many as their words can say, the keys are shared out. -/
theorem widest_load_is_shared_out :
    let l : Load := { records := UInt64.size - 1, clients := UInt32.size - 1, keyPrefix := "user1" }
    (0 < l.clients ∧ l.clients < UInt32.size ∧ l.records < UInt64.size) ∧ l.SharesOut := by
  intro l
  have some : 0 < l.clients := by decide
  have clients : l.clients < UInt32.size := by decide
  have records : l.records < UInt64.size := by decide
  exact ⟨⟨some, clients, records⟩, clients_share_the_keys_out some clients records⟩

end Load

end SqlppBench
