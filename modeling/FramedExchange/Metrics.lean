/-!
# Metrics

A server counts its connections and how long its reads and writes take. Latencies go into a
histogram whose buckets double in width: bucket 0 counts what took less than a millisecond,
bucket `i` what took at least `2 ^ (i - 1)` and less than `2 ^ i` milliseconds, and the last
bucket everything longer. All counters of a histogram are words of 64 bits and wrap around; so do
the whole milliseconds and microseconds of a sample, and the sum of the latter does so long
before any counter.

The numbers of connections are not words. Each connection adds one to them, at a moment of its own,
so as words they would be the same as long as fewer than `2 ^ 63` connections have been opened; no
server gets there.
-/

namespace FramedExchange

/-- A length of time. -/
structure Duration where
  nanoseconds : Nat
deriving DecidableEq, Repr

namespace Duration

/-- A number of milliseconds. -/
def ofMillis (n : Nat) : Duration := ⟨n * 1000000⟩

/-- Seconds and nanoseconds. -/
def ofParts (seconds nanoseconds : Nat) : Duration := ⟨seconds * 1000000000 + nanoseconds⟩

/-- The whole milliseconds, as a word. -/
def millis (d : Duration) : UInt64 := UInt64.ofNat (d.nanoseconds / 1000000)

/-- The whole microseconds, as a word. -/
def micros (d : Duration) : UInt64 := UInt64.ofNat (d.nanoseconds / 1000)

end Duration

/-- A histogram of latencies. -/
structure Histogram where
  buckets : Vector UInt64 16
  count : UInt64
  totalMicros : UInt64
deriving DecidableEq, Repr

namespace Histogram

/-- A histogram without samples. -/
def empty : Histogram := ⟨Vector.replicate 16 0, 0, 0⟩

/-- The bucket of a sample of so many whole milliseconds: the number of binary digits, at
most 15. -/
def bucketOf (millis : Nat) : Fin 16 :=
  if millis = 0 then 0 else ⟨min (millis.log2 + 1) 15, by omega⟩

/-- Add a sample. -/
def record (sample : Duration) (h : Histogram) : Histogram :=
  let bucket := bucketOf sample.millis.toNat
  { buckets := h.buckets.set bucket (h.buckets[bucket] + 1)
    count := h.count + 1
    totalMicros := h.totalMicros + sample.micros }

/-- The mean of the samples in whole microseconds, or zero without samples. -/
def meanMicros (h : Histogram) : UInt64 := h.totalMicros / h.count

end Histogram

/-- What a server counts. -/
structure Metrics where
  /-- Connections that are open. It is an integer since nothing keeps it from falling below zero. -/
  live : Int
  /-- Connections that were ever opened. -/
  total : Nat
  reads : Histogram
  writes : Histogram
deriving DecidableEq, Repr

namespace Metrics

/-- Nothing has been counted. -/
def empty : Metrics := ⟨0, 0, Histogram.empty, Histogram.empty⟩

/-- Count a connection that is opened. -/
def opened (m : Metrics) : Metrics := { m with live := m.live + 1, total := m.total + 1 }

/-- Count a connection that is closed. -/
def closed (m : Metrics) : Metrics := { m with live := m.live - 1 }

/-- Count a read. -/
def recordRead (sample : Duration) (m : Metrics) : Metrics :=
  { m with reads := m.reads.record sample }

/-- Count a write. -/
def recordWrite (sample : Duration) (m : Metrics) : Metrics :=
  { m with writes := m.writes.record sample }

end Metrics

end FramedExchange
