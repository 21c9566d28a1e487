import Lorawan.Lib.Octets
import Lorawan.Lib.Preference

/-!
# Choosing a DNS record (libbackend/resolve.c:13-154)

A record list has an empty slot for each answer that could not be parsed or was already tried.
`get_srv` and `get_naptr` are the same three passes over different members.
-/

namespace Lorawan.Backend
open Lorawan Lorawan.Preference

/-! ### Records (`resolve.c:13-44`) -/

/-- The strings are without what stands behind their length. -/
structure naptr_rdata where
  order : UInt16
  pref : UInt16
  flags : Octets
  services : Octets
  regexp : Octets
  repl : Octets
deriving DecidableEq

structure srv_rdata where
  priority : UInt16
  weight : UInt16
  port : UInt16
  name : Octets
deriving DecidableEq

namespace srv_rdata

def priorityKey (s : srv_rdata) : ℕ := s.priority.toNat

def weightKey (s : srv_rdata) : ℕ := s.weight.toNat

end srv_rdata

namespace naptr_rdata

def orderKey (n : naptr_rdata) : ℕ := n.order.toNat

def prefKey (n : naptr_rdata) : ℕ := n.pref.toNat

end naptr_rdata

/-! ### The choice (`resolve.c:46-154`) -/

/-- The slot of the record, where `rand` is what `rand()` returns. -/
def get_srv (rand : ℕ) (rl : List (Option srv_rdata)) : Option ℕ :=
  select srv_rdata.priorityKey srv_rdata.weightKey rand rl

def get_naptr (rand : ℕ) (rl : List (Option naptr_rdata)) : Option ℕ :=
  select naptr_rdata.orderKey naptr_rdata.prefKey rand rl

theorem toNat_lt_UINT_MAX (n : UInt16) : n.toNat < UINT_MAX := by
  have h := n.toNat_lt
  unfold UINT_MAX
  omega

theorem srv_rdata.keys_lt (s : srv_rdata) :
    s.priorityKey < UINT_MAX ∧ s.weightKey < UINT_MAX :=
  ⟨toNat_lt_UINT_MAX s.priority, toNat_lt_UINT_MAX s.weight⟩

theorem naptr_rdata.keys_lt (n : naptr_rdata) :
    n.orderKey < UINT_MAX ∧ n.prefKey < UINT_MAX :=
  ⟨toNat_lt_UINT_MAX n.order, toNat_lt_UINT_MAX n.pref⟩

/-- The order of the records that are tried first. -/
abbrev SrvPrefers := Prefers srv_rdata.priorityKey srv_rdata.weightKey

abbrev NaptrPrefers := Prefers naptr_rdata.orderKey naptr_rdata.prefKey

/-- The second pass counts every record that comes down to the least one, so it counts right where
that one comes first; the random number can point behind the last one elsewhere. -/
theorem get_srv_get_naptr_prefer_iff (sl : List (Option srv_rdata))
    (nl : List (Option naptr_rdata)) :
    (SrvPrefers (fun rand => get_srv rand sl) sl ↔
      sl.reduceOption = [] ∨
        LeastFirst srv_rdata.priorityKey srv_rdata.weightKey sl.reduceOption) ∧
    (NaptrPrefers (fun rand => get_naptr rand nl) nl ↔
      nl.reduceOption = [] ∨
        LeastFirst naptr_rdata.orderKey naptr_rdata.prefKey nl.reduceOption) := by
  constructor
  · exact select_prefers_iff (fun s => s.keys_lt.1) (fun s => s.keys_lt.2)
  · exact select_prefers_iff (fun n => n.keys_lt.1) (fun n => n.keys_lt.2)

/-- Two servers of one priority, the heavier weight first. -/
def heavierFirst : List (Option srv_rdata) :=
  [some ⟨10, 5, 8080, []⟩, some ⟨10, 3, 8080, []⟩]

theorem get_srv_misses :
    get_srv 1 heavierFirst = none ∧
      ¬SrvPrefers (fun rand => get_srv rand heavierFirst) heavierFirst := by
  have hmiss : get_srv 1 heavierFirst = none := by decide
  refine ⟨hmiss, ?_⟩
  intro h
  exact absurd (h.found 1 hmiss) (by decide)

end Lorawan.Backend
