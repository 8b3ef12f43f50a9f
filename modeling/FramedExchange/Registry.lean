import FramedExchange.Handler

/-!
# Registries

A registry finds the handler of a key. Of several registrations for one key the last one counts. The
code 0 marks success in the header of a reply and can be no key: a registration for it is ignored.
-/

namespace FramedExchange

/-- Handlers by key, each key once, in the order of their first registration. -/
structure Registry (κ η : Type) where
  entries : List (κ × η)

namespace Registry

variable {κ η : Type}

/-- A registry without handlers. -/
def empty : Registry κ η := ⟨[]⟩

/-- How many keys have a handler. -/
def size (registry : Registry κ η) : Nat := registry.entries.length

/-- Whether no key has a handler. -/
def isEmpty (registry : Registry κ η) : Bool := registry.entries.isEmpty

/-- The keys that have a handler. -/
def keys (registry : Registry κ η) : List κ := registry.entries.map Prod.fst

variable [BEq κ]

/-- The handler of a key. -/
def get? (registry : Registry κ η) (key : κ) : Option η := registry.entries.lookup key

/-- Put a handler in the place of the one that a key had, or add it at the end. -/
def insertEntry (key : κ) (handler : η) : List (κ × η) → List (κ × η)
  | [] => [(key, handler)]
  | entry :: rest =>
    if entry.1 == key then (key, handler) :: rest else entry :: insertEntry key handler rest

/-- Register the handler of a key. -/
def register (key : κ) (handler : η) (registry : Registry κ η) : Registry κ η :=
  ⟨insertEntry key handler registry.entries⟩

theorem lookup_insertEntry [LawfulBEq κ] (key other : κ) (handler : η) (entries : List (κ × η)) :
    (insertEntry key handler entries).lookup other =
      if other == key then some handler else entries.lookup other := by
  induction entries with
  | nil => cases h : other == key <;> simp [insertEntry, List.lookup_cons, h]
  | cons entry rest ih =>
    obtain ⟨first, old⟩ := entry
    by_cases hkey : first == key
    · have hfirst : first = key := by simpa using hkey
      cases h : other == key <;> simp [insertEntry, List.lookup_cons, hfirst, h]
    · simp only [insertEntry, hkey, Bool.false_eq_true, ↓reduceIte, List.lookup_cons, ih]
      cases hother : other == first with
      | false => simp
      | true =>
        have hsame : other = first := by simpa using hother
        subst hsame
        simp [hkey]

/-- The last registration of a key counts, and the other keys keep theirs. -/
theorem get?_register [LawfulBEq κ] (key other : κ) (handler : η) (registry : Registry κ η) :
    (registry.register key handler).get? other =
      if other == key then some handler else registry.get? other :=
  lookup_insertEntry key other handler registry.entries

end Registry

/-- Handlers by path. -/
abbrev PathRegistry := Registry String PathHandler

/-- The registered paths in ascending order. -/
def PathRegistry.sortedPaths (registry : PathRegistry) : List String :=
  registry.keys.mergeSort fun a b ↦ decide (a ≤ b)

/-- Handlers by code. -/
abbrev CodeRegistry := Registry UInt16 CodeHandler

/-- Register the handler of a code other than 0. -/
def CodeRegistry.registerCode (code : UInt16) (handler : CodeHandler) (registry : CodeRegistry) :
    CodeRegistry :=
  if code = 0 then registry else registry.register code handler

end FramedExchange
