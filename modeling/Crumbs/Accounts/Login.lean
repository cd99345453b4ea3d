import Crumbs.Cart.Merge
import Crumbs.Lifecycle.Snapshot

/-!
# Logging In

A visitor has a cart under the key of the session. Registering and logging in take it over into the
cart of the user, by the key that the session has then.

## Contents

- `Session`, `getSessionCart`: the cart of a request
- `mergeSessionCartOnLogin`, `register`, `loginView`
- `KeepsGuestCart`, `keepsGuestCart_iff`: when the user finds the visitor's items in the cart
-/

namespace Crumbs

open Crumbs.Db

/-! ## Requests -/

/-- What a request knows of its visitor: `session.session_key`, if there is a session yet, and
    `request.user`, if somebody is logged in. -/
structure Session where
  sessionKey : Option String := none
  user : Option UserId := none
  deriving DecidableEq, Repr

/-- An empty key counts as none. -/
def Session.key (session : Session) : Option String := session.sessionKey.filter (· ≠ "")

/-- `_get_cart`; a session that is created has the key `created`. -/
def getSessionCart (created : String) (session : Session) : ShopTx (CartId × Session) := do
  let session : Session :=
    if session.key.isNone then { session with sessionKey := some created } else session
  let c ← getOrCreateCart session.user session.sessionKey
  return (c, session)

/-- Merges the cart of the session into the cart of the user. -/
def mergeSessionCartOnLogin (env : Env) (session : Session) (user : UserId) : ShopTx Unit :=
  Tx.ifSome session.key fun key => do
    let shop ← Tx.getDb
    Tx.ifSome (shop.cartFor none (some key)) fun sessionCart => do
      let userCart ← getOrCreateCart (some user) none
      mergeCarts env sessionCart userCart

/-- A form that lets a user in, if it is valid: the cart is merged when `login` has been called. -/
def letIn (login : Session → UserId → Session) (env : Env) (session : Session)
    (form : Option UserId) : ShopTx Session :=
  if session.user.isSome then
    return session
  else match form with
  | none => return session
  | some user => do
    let session := login session user
    mergeSessionCartOnLogin env session user
    return session

/-- `register`: `form` is the user that a valid form saves. -/
def register (login : Session → UserId → Session) (env : Env) (session : Session)
    (form : Option UserId) : ShopTx Session := letIn login env session form

/-- `login_view`: `form` is the user that a valid form has authenticated. -/
def loginView (login : Session → UserId → Session) (env : Env) (session : Session)
    (form : Option UserId) : ShopTx Session := letIn login env session form

/-! ## The carts before and after -/

/-- The cart that an anonymous session has filled. -/
def Shop.guestCart (shop : Shop) (session : Session) : Option CartId :=
  session.key.bind fun key => shop.cartFor none (some key)

/-- The units of a product in the cart of a user. -/
def Shop.userUnits (shop : Shop) (user : UserId) (p : ProductId) : ℕ :=
  (shop.cartFor (some user) none).elim 0 fun c => lineQuantity (shop.cartItems c) p

/-- What the guest's cart had is in the user's cart, beside what was there. -/
def KeepsGuestCart (session : Session) (user : UserId) (shop shop' : Shop) : Prop :=
  ∀ c, shop.guestCart session = some c → ∀ item ∈ shop.cartItems c,
    shop'.userUnits user item.product = shop.userUnits user item.product + item.quantity

/-- No cart belongs to the key. -/
def Shop.IsNewKey (shop : Shop) (key : Option String) : Prop :=
  ∀ c row, shop.carts.rows c = some row → row.sessionKey ≠ key

/-- What the guest's cart has is available, and can be added to the user's cart. -/
structure Shop.CanServe (shop : Shop) (env : Env) (session : Session) (user : UserId) : Prop where
  available : ∀ c, shop.guestCart session = some c → ∀ item ∈ shop.cartItems c,
    (shop.stock.products item.product).isAvailable
  isMutable : ∀ c, shop.cartFor (some user) none = some c →
    (ensureCartMutable c ⟨shop, []⟩).1 = .ok ()
  mergeable : ∀ c d, shop.guestCart session = some c → shop.cartFor (some user) none = some d →
    (mergeCarts env c d ⟨shop, []⟩).1 = .ok ()

section Login

variable {login : Session → UserId → Session} {env : Env} {session : Session} {user : UserId}
  {shop : Shop} {ext : List Observation}

/-- With a key that no cart belongs to there is nothing to merge. -/
theorem mergeSessionCartOnLogin_of_isNewKey (hnew : shop.IsNewKey session.sessionKey) :
    mergeSessionCartOnLogin env session user ⟨shop, ext⟩ = (.ok (), ⟨shop, ext⟩) := by
  rw [mergeSessionCartOnLogin]
  cases hkey : session.key with
  | none => rfl
  | some key =>
    refine (Tx.bind_of_ok rfl).trans ?_
    have hnone : shop.cartFor none (some key) = none := by
      rw [Shop.cartFor, Option.map_eq_none_iff, List.head?_eq_none_iff,
        List.eq_nil_iff_forall_not_mem]
      rintro ⟨c, row⟩ hmem
      obtain ⟨hrow, hmatch⟩ := Table.mem_filter.1 hmem
      have hsame : row.sessionKey = some key := of_decide_eq_true hmatch
      exact hnew c row hrow (hsame.trans (Option.filter_eq_some_iff.1 hkey).1.symm)
    rw [hnone]
    rfl

/-- Nobody's cart changes by logging in: the session has its new key when its cart is looked for. -/
theorem letIn_of_isNewKey (hanon : session.user = none)
    (hnew : shop.IsNewKey (login session user).sessionKey) :
    letIn login env session (some user) ⟨shop, ext⟩ =
      (.ok (login session user), ⟨shop, ext⟩) := by
  rw [letIn, hanon, Option.isSome_none, if_neg Bool.false_ne_true]
  exact Tx.bind_of_ok (mergeSessionCartOnLogin_of_isNewKey hnew)

/-- A visitor who logs in finds the items in the user's cart if and only if there were none. -/
theorem keepsGuestCart_iff {view : (Session → UserId → Session) → Env → Session → Option UserId →
      ShopTx Session} (hview : view = register ∨ view = loginView) (hanon : session.user = none)
    (hnew : shop.IsNewKey (login session user).sessionKey) {session' : Session}
    {w' : World Shop (List Observation)}
    (h : view login env session (some user) ⟨shop, ext⟩ = (.ok session', w')) :
    KeepsGuestCart session user shop w'.db ↔
      ∀ c, shop.guestCart session = some c → shop.cartItems c = [] := by
  have hrun : view login env session (some user) ⟨shop, ext⟩ =
      (.ok (login session user), ⟨shop, ext⟩) := by
    rcases hview with rfl | rfl
    · exact letIn_of_isNewKey hanon hnew
    · exact letIn_of_isNewKey hanon hnew
  obtain rfl : w' = ⟨shop, ext⟩ := (Prod.ext_iff.1 (h.symm.trans hrun)).2
  refine forall₂_congr fun c _ => ⟨fun hkeeps => ?_, fun hempty item hitem => ?_⟩
  · refine List.eq_nil_iff_forall_not_mem.2 fun item hitem => ?_
    have hsame : shop.userUnits user item.product = shop.userUnits user item.product + item.quantity :=
      hkeeps item hitem
    have hpos := item.quantity_pos
    omega
  · rw [hempty] at hitem
    cases hitem

end Login

/-- `login` gives the session a key that was not in use. -/
def freshLogin (_ : Session) (user : UserId) : Session :=
  { sessionKey := some "fresh", user := some user }

theorem isNewKey_fresh {shop : Shop}
    (h : ∀ e ∈ shop.carts.entries, e.2.sessionKey ≠ some "fresh") : shop.IsNewKey (some "fresh") :=
  fun c row hrow => h (c, row) (Table.mem_entries.2 hrow)

/-- A visitor without items loses none. -/
theorem keepsGuestCart_iff_visitors : KeepsGuestCart { sessionKey := some "guest" } 1 visitors
    (register freshLogin {} { sessionKey := some "guest" } (some 1) ⟨visitors, []⟩).2.db := by
  have hnew : visitors.IsNewKey (some "fresh") := isNewKey_fresh (by decide +kernel)
  have hrun : register freshLogin {} { sessionKey := some "guest" } (some 1) ⟨visitors, []⟩ =
      (.ok (freshLogin {} 1), ⟨visitors, []⟩) := letIn_of_isNewKey rfl hnew
  rw [hrun]
  exact (keepsGuestCart_iff (.inl rfl) rfl hnew hrun).2 fun _ _ => rfl

/-- A guest with a loaf in the cart logs in, and the loaf is not in the user's cart. -/
theorem not_forall_keepsGuestCart : ¬∀ (login : Session → UserId → Session) (env : Env)
    (session session' : Session) (user : UserId) (shop : Shop) (w' : World Shop (List Observation)),
    session.user = none → shop.IsNewKey (login session user).sessionKey →
      shop.CanServe env session user →
        loginView login env session (some user) ⟨shop, []⟩ = (.ok session', w') →
          KeepsGuestCart session user shop w'.db := by
  intro h
  let shop := (guestAdds 0).db
  have hnew : shop.IsNewKey (some "fresh") := isNewKey_fresh (by decide +kernel)
  have hguest : shop.guestCart { sessionKey := some "guest" } = some 0 := by decide +kernel
  have huser : shop.cartFor (some 1) none = some 1 := by decide +kernel
  have hserve : shop.CanServe {} { sessionKey := some "guest" } 1 := by
    refine ⟨fun c hc => ?_, fun c hc => ?_, fun c d hc hd => ?_⟩
    · obtain rfl : 0 = c := Option.some.inj (hguest.symm.trans hc)
      decide +kernel
    · obtain rfl : 1 = c := Option.some.inj (huser.symm.trans hc)
      decide +kernel
    · obtain rfl : 0 = c := Option.some.inj (hguest.symm.trans hc)
      obtain rfl : 1 = d := Option.some.inj (huser.symm.trans hd)
      decide +kernel
  have hkeeps := h freshLogin {} { sessionKey := some "guest" } _ 1 shop _ rfl hnew hserve
    (letIn_of_isNewKey rfl hnew)
  have hlost : ¬∀ item ∈ shop.cartItems 0, shop.userUnits 1 item.product =
      shop.userUnits 1 item.product + item.quantity := by decide +kernel
  exact hlost (hkeeps 0 hguest)

end Crumbs
