import BrokerControl.Data.Directory

/-!
# Addresses

Exchanges, queues and grants are named within a virtual host. Addresses are ordered by virtual host
and then by name.
-/

namespace BrokerControl.Broker

structure Address where
  vhost : String
  name : String
  deriving DecidableEq

namespace Address

instance : Ord Address where
  compare := compareLex (compareOn Address.vhost) (compareOn Address.name)

instance : Std.TransOrd Address :=
  inferInstanceAs (Std.TransCmp (compareLex (compareOn Address.vhost) (compareOn Address.name)))

instance : Std.LawfulEqOrd Address where
  eq_of_compare {a b} h := by
    have h' : a.vhost = b.vhost ∧ a.name = b.name := by
      have h : compareLex (compareOn Address.vhost) (compareOn Address.name) a b = .eq := h
      simpa only [compareLex, compareOn, Ordering.then_eq_eq,
        Std.LawfulEqCmp.compare_eq_iff_eq] using h
    cases a
    cases b
    cases h'.1
    cases h'.2
    rfl

end Address

end BrokerControl.Broker
