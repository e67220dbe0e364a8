/-
  Net/IpAddr.lean --- IP addresses and their order, after `std::net::IpAddr`.

  An address is its octets.  The derived order of the standard library puts every
  IPv4 address before every IPv6 address and compares two addresses of one
  version by their octets, most significant first.
-/
set_option autoImplicit false

namespace GeSensor.Net

/-- An IP address. -/
inductive IpAddr where
  | v4 (octets : Vector UInt8 4)
  | v6 (octets : Vector UInt8 16)
  deriving DecidableEq, Repr

namespace IpAddr

/-- `IpAddr::V4(Ipv4Addr::new(a, b, c, d))`. -/
def newV4 (a b c d : UInt8) : IpAddr := v4 #v[a, b, c, d]

/-- `left <= right`. -/
def le : IpAddr → IpAddr → Prop
  | v4 left, v4 right => left.toList ≤ right.toList
  | v4 _, v6 _ => True
  | v6 _, v4 _ => False
  | v6 left, v6 right => left.toList ≤ right.toList

instance : LE IpAddr := ⟨le⟩

instance (left right : IpAddr) : Decidable (left ≤ right) :=
  match left, right with
  | v4 left, v4 right => inferInstanceAs (Decidable (left.toList ≤ right.toList))
  | v4 _, v6 _ => inferInstanceAs (Decidable True)
  | v6 _, v4 _ => inferInstanceAs (Decidable False)
  | v6 left, v6 right => inferInstanceAs (Decidable (left.toList ≤ right.toList))

protected theorem le_total (left right : IpAddr) : left ≤ right ∨ right ≤ left := by
  cases left with
  | v4 left =>
      cases right with
      | v4 right => exact List.le_total left.toList right.toList
      | v6 right => exact Or.inl trivial
  | v6 left =>
      cases right with
      | v4 right => exact Or.inr trivial
      | v6 right => exact List.le_total left.toList right.toList

protected theorem le_refl (addr : IpAddr) : addr ≤ addr :=
  (IpAddr.le_total addr addr).elim id id

protected theorem le_antisymm {left right : IpAddr} (h : left ≤ right) (h' : right ≤ left) :
    left = right := by
  cases left with
  | v4 left =>
      cases right with
      | v4 right => exact congrArg v4 (Vector.toList_inj.mp (List.le_antisymm h h'))
      | v6 right => exact False.elim h'
  | v6 left =>
      cases right with
      | v4 right => exact False.elim h
      | v6 right => exact congrArg v6 (Vector.toList_inj.mp (List.le_antisymm h h'))

end IpAddr

end GeSensor.Net
