import CivicSite.Entries
import CivicSite.Fault

/-!
# Key and value stores

A store keeps texts under keys. What it is made of is left open: the operations act on a state
of any type, and each of them answers or fails. The store in memory never fails.
-/

namespace CivicSite

/-- The operations of a store over states of a type. -/
structure Store (σ : Type) where
  get : Text → σ → Except Fault (Option Text) × σ
  set : Text → Text → σ → Except Fault Unit × σ
  delete : Text → σ → Except Fault Unit × σ

namespace Store

def memory : Store (Entries Text) where
  get key s := (.ok (s.get? key), s)
  set key value s := (.ok (), s.put key value)
  delete key s := (.ok (), s.remove key)

/-- A store of which some operations always fail. -/
def failing {σ : Type} (store : Store σ) (get? set? delete? : Option Fault) : Store σ where
  get key s := match get? with
    | some e => (.error e, s)
    | none => store.get key s
  set key value s := match set? with
    | some e => (.error e, s)
    | none => store.set key value s
  delete key s := match delete? with
    | some e => (.error e, s)
    | none => store.delete key s

end Store

end CivicSite
