import FramedExchange.Metrics
import Mathlib.Algebra.BigOperators.Fin
import Mathlib.Algebra.Order.BigOperators.Group.List
import Mathlib.Algebra.Order.Ring.Nat

/-!
# What a histogram says about its samples

A histogram has three kinds of counters, which are added to one by one and wrap around. Whatever the
samples are, each counter is the word of a number that does not depend on their order: how many of
them belong to a bucket, how many there are, and how many microseconds they have together
(`Histogram.ofSamples_eq`).

If there are fewer samples than a word can count and none of them is too long for a word of
milliseconds, no counter has wrapped around, and the histogram tells what it should
(`Histogram.describes_ofSamples`). The bounds of the buckets are those of the binary logarithm
(`bucketOf_eq_iff`); what lies beyond the last bound goes to the last bucket.
-/

namespace FramedExchange

namespace Duration

/-- How many whole milliseconds a length of time has. -/
def wholeMillis (d : Duration) : ℕ := d.nanoseconds / 1000000

/-- How many whole microseconds a length of time has. -/
def wholeMicros (d : Duration) : ℕ := d.nanoseconds / 1000

/-- What is shorter than `n` milliseconds has fewer than `n` whole ones. -/
theorem wholeMillis_lt_iff {d : Duration} {n : ℕ} :
    d.wholeMillis < n ↔ d.nanoseconds < (ofMillis n).nanoseconds :=
  Nat.div_lt_iff_lt_mul (by decide)

theorem toNat_millis {d : Duration} (h : d.wholeMillis < 2 ^ 64) : d.millis.toNat = d.wholeMillis :=
  UInt64.toNat_ofNat_of_lt' h

end Duration

namespace Histogram

/-! ### Buckets -/

theorem bucketOf_eq_zero_iff {millis : ℕ} : bucketOf millis = 0 ↔ millis = 0 := by
  rw [bucketOf]
  split
  · rename_i hzero
    exact iff_of_true rfl hzero
  · rename_i hpos
    refine iff_of_false (fun hbucket ↦ ?_) hpos
    have hmin : min (millis.log2 + 1) 15 = 0 := congrArg Fin.val hbucket
    omega

/-- **A bucket between the first and the last** is bounded by two powers of two. -/
theorem bucketOf_eq_iff {millis : ℕ} {bucket : Fin 16} (hfirst : bucket ≠ 0) (hlast : bucket ≠ 15) :
    bucketOf millis = bucket ↔ 2 ^ (bucket.val - 1) ≤ millis ∧ millis < 2 ^ bucket.val := by
  obtain ⟨digits, hdigits⟩ : ∃ digits, bucket.val = digits + 1 :=
    Nat.exists_eq_succ_of_ne_zero (Fin.val_ne_of_ne hfirst)
  have hlt : bucket.val ≠ 15 := Fin.val_ne_of_ne hlast
  rw [bucketOf, hdigits, Nat.add_sub_cancel]
  split
  · rename_i hzero
    refine iff_of_false (fun hbucket ↦ hfirst hbucket.symm) fun hbounds ↦ ?_
    exact absurd (hzero ▸ hbounds.1) (Nat.not_le.2 (Nat.two_pow_pos digits))
  · rename_i hpos
    rw [← Nat.log2_eq_iff hpos, Fin.ext_iff]
    show min (millis.log2 + 1) 15 = bucket.val ↔ _
    omega

theorem bucketOf_eq_last_iff {millis : ℕ} : bucketOf millis = 15 ↔ 2 ^ 14 ≤ millis := by
  rw [bucketOf]
  split
  · rename_i hzero
    exact iff_of_false (by decide) (by omega)
  · rename_i hpos
    rw [← Nat.le_log2 hpos, Fin.ext_iff]
    show min (millis.log2 + 1) 15 = 15 ↔ _
    omega

/-! ### Counters -/

/-- Add samples one after the other. -/
def recordAll (samples : List Duration) (h : Histogram) : Histogram :=
  samples.foldl (fun h sample ↦ h.record sample) h

/-- The histogram of samples that were recorded in their order. -/
def ofSamples (samples : List Duration) : Histogram := empty.recordAll samples

/-- The bucket to which a sample is added. -/
def bucketOfSample (sample : Duration) : Fin 16 := bucketOf sample.millis.toNat

theorem recordAll_append (samples more : List Duration) (h : Histogram) :
    h.recordAll (samples ++ more) = (h.recordAll samples).recordAll more :=
  List.foldl_append

/-- **Each counter is the word of a number that does not depend on the order of the samples.** -/
theorem ofSamples_eq (samples : List Duration) : ofSamples samples =
    { buckets := .ofFn fun bucket ↦ UInt64.ofNat (samples.countP (bucketOfSample · = bucket))
      count := UInt64.ofNat samples.length
      totalMicros := UInt64.ofNat (samples.map Duration.wholeMicros).sum } := by
  induction samples using List.reverseRecOn with
  | nil => rfl
  | append_singleton samples sample ih =>
    have hlast : ofSamples (samples ++ [sample]) = (ofSamples samples).record sample :=
      recordAll_append samples [sample] empty
    rw [hlast, ih, record, mk.injEq]
    refine ⟨?_, ?_, ?_⟩
    · -- the bucket of the last sample counts one more, and the others stay as they were
      ext bucket hbucket
      simp only [Vector.getElem_set, Fin.getElem_fin, Vector.getElem_ofFn, List.countP_append,
        List.countP_singleton]
      by_cases hsame : bucketOfSample sample = ⟨bucket, hbucket⟩
      · have hval : (bucketOf sample.millis.toNat).val = bucket := congrArg Fin.val hsame
        have hfin : bucketOf sample.millis.toNat = ⟨bucket, hbucket⟩ := hsame
        rw [if_pos hval, if_pos (decide_eq_true hsame), UInt64.ofNat_add, Fin.eta, hfin]
        rfl
      · have hval : (bucketOf sample.millis.toNat).val ≠ bucket := fun hval ↦ hsame (Fin.ext hval)
        rw [if_neg hval, if_neg (by simpa using hsame), Nat.add_zero]
    · rw [List.length_append, UInt64.ofNat_add]
      rfl
    · rw [List.map_append, List.sum_append, UInt64.ofNat_add, List.map_singleton,
        List.sum_singleton]
      rfl

/-- Every sample belongs to one bucket. -/
theorem sum_countP_bucketOfSample (samples : List Duration) :
    ∑ bucket, samples.countP (bucketOfSample · = bucket) = samples.length := by
  induction samples with
  | nil => exact Finset.sum_const_zero
  | cons sample samples ih =>
    simp only [List.countP_cons, decide_eq_true_eq, Finset.sum_add_distrib, ih, Finset.sum_ite_eq,
      Finset.mem_univ, if_true, List.length_cons]

/-! ### The law -/

/-- What a histogram tells about samples. -/
structure Describes (samples : List Duration) (h : Histogram) : Prop where
  /-- The first bucket counts the samples that are shorter than a millisecond. -/
  first : h.buckets[0].toNat =
    samples.countP fun sample ↦ sample.nanoseconds < (Duration.ofMillis 1).nanoseconds
  /-- A bucket in between counts those whose whole milliseconds are between two powers of two. -/
  between : ∀ bucket : Fin 16, bucket ≠ 0 → bucket ≠ 15 → h.buckets[bucket].toNat =
    samples.countP fun sample ↦
      2 ^ (bucket.val - 1) ≤ sample.wholeMillis ∧ sample.wholeMillis < 2 ^ bucket.val
  /-- The last bucket counts all that are longer. -/
  last : h.buckets[15].toNat = samples.countP fun sample ↦ 2 ^ 14 ≤ sample.wholeMillis
  /-- The buckets add up to the number of samples. -/
  sum : ∑ bucket : Fin 16, h.buckets[bucket].toNat = h.count.toNat
  count : h.count.toNat = samples.length
  /-- The mean is rounded down to whole microseconds, if their sum fits into a word. -/
  mean : (samples.map Duration.wholeMicros).sum < 2 ^ 64 →
    h.meanMicros.toNat = (samples.map Duration.wholeMicros).sum / samples.length
  /-- It is between the smallest and the largest sample. -/
  mean_mem : (samples.map Duration.wholeMicros).sum < 2 ^ 64 → samples ≠ [] →
    ∀ least greatest, (∀ sample ∈ samples,
      least ≤ sample.wholeMicros ∧ sample.wholeMicros ≤ greatest) →
    least ≤ h.meanMicros.toNat ∧ h.meanMicros.toNat ≤ greatest
  mean_nil : samples = [] → h.meanMicros = 0

section Law

variable {samples : List Duration}

/-- The mean of numbers is between any bounds of them. -/
theorem le_sum_div_length_le {numbers : List ℕ} (hne : numbers ≠ []) {least greatest : ℕ}
    (h : ∀ n ∈ numbers, least ≤ n ∧ n ≤ greatest) :
    least ≤ numbers.sum / numbers.length ∧ numbers.sum / numbers.length ≤ greatest := by
  have hpos : 0 < numbers.length := List.length_pos_iff.2 hne
  have hleast := numbers.card_nsmul_le_sum least fun n hmem ↦ (h n hmem).1
  have hgreatest := numbers.sum_le_card_nsmul greatest fun n hmem ↦ (h n hmem).2
  rw [smul_eq_mul] at hleast hgreatest
  exact ⟨(Nat.le_div_iff_mul_le hpos).2 (Nat.mul_comm .. ▸ hleast),
    Nat.div_le_of_le_mul hgreatest⟩

/-- No counter of a bucket has wrapped around. -/
theorem toNat_buckets_ofSamples (hfew : samples.length < 2 ^ 64) (bucket : Fin 16) :
    (ofSamples samples).buckets[bucket].toNat = samples.countP (bucketOfSample · = bucket) := by
  rw [ofSamples_eq]
  simp only [Fin.getElem_fin, Vector.getElem_ofFn, Fin.eta]
  exact UInt64.toNat_ofNat_of_lt' (List.countP_le_length.trans_lt hfew)

/-- **A bucket counts the samples that are of it.** -/
theorem toNat_buckets_ofSamples_of_iff (hfew : samples.length < 2 ^ 64)
    (hshort : ∀ sample ∈ samples, sample.nanoseconds < (Duration.ofMillis (2 ^ 64)).nanoseconds)
    {bucket : Fin 16} {p : Duration → Prop} [DecidablePred p]
    (h : ∀ sample : Duration, bucketOf sample.wholeMillis = bucket ↔ p sample) :
    (ofSamples samples).buckets[bucket].toNat = samples.countP fun sample ↦ p sample := by
  rw [toNat_buckets_ofSamples hfew]
  refine List.countP_congr fun sample hmem ↦ ?_
  have hmillis := Duration.toNat_millis (Duration.wholeMillis_lt_iff.2 (hshort sample hmem))
  rw [decide_eq_true_eq, decide_eq_true_eq, bucketOfSample, hmillis, h]

theorem toNat_count_ofSamples (hfew : samples.length < 2 ^ 64) :
    (ofSamples samples).count.toNat = samples.length := by
  rw [ofSamples_eq]
  exact UInt64.toNat_ofNat_of_lt' hfew

theorem toNat_meanMicros_ofSamples (hfew : samples.length < 2 ^ 64)
    (hsum : (samples.map Duration.wholeMicros).sum < 2 ^ 64) :
    (ofSamples samples).meanMicros.toNat =
      (samples.map Duration.wholeMicros).sum / samples.length := by
  rw [meanMicros, UInt64.toNat_div, toNat_count_ofSamples hfew, ofSamples_eq]
  exact congrArg (· / samples.length) (UInt64.toNat_ofNat_of_lt' hsum)

/-- **A histogram describes its samples**, in whatever order they were recorded. -/
theorem describes_ofSamples (hfew : samples.length < 2 ^ 64)
    (hshort : ∀ sample ∈ samples, sample.nanoseconds < (Duration.ofMillis (2 ^ 64)).nanoseconds) :
    (ofSamples samples).Describes samples ∧
      ∀ others : List Duration, others.Perm samples → ofSamples others = ofSamples samples := by
  refine ⟨⟨?_, fun bucket hfirst hlast ↦ ?_, ?_, ?_, toNat_count_ofSamples hfew,
    toNat_meanMicros_ofSamples hfew, fun hsum hne least greatest hbounds ↦ ?_, ?_⟩,
    fun others hperm ↦ ?_⟩
  · have hfirst (sample : Duration) : bucketOf sample.wholeMillis = 0 ↔
        sample.nanoseconds < (Duration.ofMillis 1).nanoseconds := by
      rw [bucketOf_eq_zero_iff, ← Nat.lt_one_iff, Duration.wholeMillis_lt_iff]
    exact toNat_buckets_ofSamples_of_iff hfew hshort hfirst
  · exact toNat_buckets_ofSamples_of_iff hfew hshort fun sample ↦ bucketOf_eq_iff hfirst hlast
  · have hlast (sample : Duration) : bucketOf sample.wholeMillis = 15 ↔
        2 ^ 14 ≤ sample.wholeMillis :=
      bucketOf_eq_last_iff
    exact toNat_buckets_ofSamples_of_iff hfew hshort hlast
  · simp only [toNat_buckets_ofSamples hfew, toNat_count_ofSamples hfew, sum_countP_bucketOfSample]
  · have hmean := toNat_meanMicros_ofSamples hfew hsum
    have hall : ∀ n ∈ samples.map Duration.wholeMicros, least ≤ n ∧ n ≤ greatest :=
      List.forall_mem_map.2 hbounds
    have hbetween := le_sum_div_length_le (List.map_eq_nil_iff.not.2 hne) hall
    rw [List.length_map] at hbetween
    rwa [hmean]
  · rintro rfl
    rfl
  · rw [ofSamples_eq, ofSamples_eq, hperm.length_eq, (hperm.map Duration.wholeMicros).sum_eq]
    simp only [hperm.countP_eq]

/-- One sample below a millisecond, two at the lower bounds of their buckets, and one of an hour. -/
theorem describes_ofSamples_hour :
    let samples : List Duration := [⟨300000⟩, .ofMillis 1, .ofMillis 4, .ofMillis 3600000]
    samples.length < 2 ^ 64 ∧
      (∀ sample ∈ samples, sample.nanoseconds < (Duration.ofMillis (2 ^ 64)).nanoseconds) ∧
      (ofSamples samples).buckets[3].toNat = 1 ∧ (ofSamples samples).buckets[15].toNat = 1 ∧
      (ofSamples samples).count.toNat = 4 ∧ (ofSamples samples).meanMicros.toNat = 900001325 ∧
      ofSamples samples.reverse = ofSamples samples := by
  intro samples
  have hfew : samples.length < 2 ^ 64 := by decide
  have hshort : ∀ sample ∈ samples,
      sample.nanoseconds < (Duration.ofMillis (2 ^ 64)).nanoseconds := by decide
  obtain ⟨⟨-, hbetween, hlast, -, hcount, hmean, -⟩, horder⟩ := describes_ofSamples hfew hshort
  exact ⟨hfew, hshort, hbetween 3 (by decide) (by decide), hlast, hcount,
    (hmean (by decide)).trans (by decide), horder samples.reverse samples.reverse_perm⟩

end Law

end Histogram

end FramedExchange
