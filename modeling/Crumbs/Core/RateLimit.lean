import Crumbs.Db.Runs
import Crumbs.Models

/-!
# The Rate Limiter

`RateLimitMiddleware` counts the requests of a client to a path in a cache entry, and every request
that it lets pass gives the entry a whole window of life again. So the entry counts the requests
that came in a row, each within a window after the one before, and these may span much more than a
window.

## Contents

- `Cache`, `isLimited`, `rateLimit`: the middleware
- `inARow`, `withinWindow`: what the entry counts, and what a sliding window counts
- `limiterStep`, `Slides`: requests of one client to one path; a request is refused as a sliding
  window would have it
- `guarded_slides_iff`: this is so in the runs in which a full row is never longer than a window
-/

namespace Crumbs

open Crumbs.Db

/-! ## The cache -/

structure CacheEntry where
  count : ℤ
  expiresAt : Time
  deriving DecidableEq, Repr

/-- The default cache: the entries by their keys. -/
abbrev Cache := String → Option CacheEntry

/-- `cache.get(key, default)`; an entry is gone when its time has come. -/
def Cache.get (cache : Cache) (now : Time) (key : String) (default : ℤ) : ℤ :=
  (cache key).elim default fun entry => if now < entry.expiresAt then entry.count else default

/-- `cache.set(key, value, timeout)` -/
def Cache.set (cache : Cache) (now : Time) (key : String) (value : ℤ) (timeout : ℤ) : Cache :=
  fun key' => if key' = key then some ⟨value, now + seconds timeout⟩ else cache key'

/-! ## The middleware -/

/-- What the middleware reads of a request; a header that is missing is empty. -/
structure HttpRequest where
  method : String
  path : String
  httpXForwardedFor : String := ""
  remoteAddr : Option String := none
  deriving DecidableEq, Repr

/-- `_client_ip` -/
def HttpRequest.clientIp (request : HttpRequest) : String :=
  if request.httpXForwardedFor ≠ "" then
    strip (String.ofList (request.httpXForwardedFor.toList.takeWhile (· ≠ ',')))
  else request.remoteAddr.getD "unknown"

/-- The key under which `_is_limited` counts. -/
def HttpRequest.rateLimitKey (request : HttpRequest) : String :=
  s!"ratelimit:{request.path}:{request.clientIp}"

/-- `DEFAULT_PATHS`: how many requests in how many seconds. -/
def defaultPaths : List (String × ℤ × ℤ) := [("/accounts/login/", 10, 60), ("/checkout/", 5, 60)]

/-- `_match_path` -/
def matchPath (paths : List (String × ℤ × ℤ)) (path : String) : Option (ℤ × ℤ) :=
  (paths.find? fun e => e.1.toList.isPrefixOf path.toList).map Prod.snd

/-- `_is_limited`: whether the request is refused, and the cache after it. -/
def isLimited (cache : Cache) (now : Time) (request : HttpRequest) (config : ℤ × ℤ) :
    Bool × Cache :=
  let (maxRequests, windowSeconds) := config
  let count := cache.get now request.rateLimitKey 0
  if maxRequests ≤ count then (true, cache)
  else (false, cache.set now request.rateLimitKey (count + 1) windowSeconds)

/-- `__call__`: whether the request is refused, and the cache after it. -/
def rateLimit (paths : List (String × ℤ × ℤ)) (debug : Bool) (cache : Cache) (now : Time)
    (request : HttpRequest) : Bool × Cache :=
  if request.method = "POST" ∧ debug = false then
    match matchPath paths request.path with
    | some config => isLimited cache now request config
    | none => (false, cache)
  else (false, cache)

/-! ## Rows and windows -/

section Counts

variable (window : ℤ)

/-- How many of the requests before `t`, the latest first, came in a row: the last one less than a
    window before `t`, and each other one less than a window before the next one. -/
def inARow : Time → List Time → ℕ
  | _, [] => 0
  | t, a :: rest => if t < a + seconds window then inARow a rest + 1 else 0

/-- How many of the requests came less than a window before `t`. -/
def withinWindow (t : Time) (requests : List Time) : ℕ :=
  (requests.filter fun a => decide (t < a + seconds window)).length

/-- The requests before `t`, the latest first, came in a row. -/
def IsRow : Time → List Time → Prop
  | _, [] => True
  | t, a :: rest => t < a + seconds window ∧ IsRow a rest

instance IsRow.decidable : (t : Time) → (requests : List Time) → Decidable (IsRow window t requests)
  | _, [] => isTrue trivial
  | t, a :: rest =>
    have := IsRow.decidable a rest
    inferInstanceAs (Decidable (t < a + seconds window ∧ IsRow window a rest))

/-- There are `n` requests in a row if and only if the last `n` came in a row. -/
theorem le_inARow_iff {requests : List Time} {n : ℕ} {t : Time} :
    n ≤ inARow window t requests ↔
      (requests.take n).length = n ∧ IsRow window t (requests.take n) := by
  induction requests generalizing n t with
  | nil =>
    rw [inARow, List.take_nil, List.length_nil, Nat.le_zero, eq_comm]
    exact (and_iff_left trivial).symm
  | cons a rest ih =>
    cases n with
    | zero => exact iff_of_true (Nat.zero_le _) ⟨rfl, trivial⟩
    | succ n =>
      rw [inARow, List.take_succ_cons, List.length_cons, Nat.add_right_cancel_iff, IsRow]
      split
      next h => rw [Nat.add_le_add_iff_right, ih, and_iff_right h]
      next h => exact iff_of_false (Nat.not_succ_le_zero n) fun hrow => h hrow.2.1

/-- Of requests in their order, the ones within a window are the last ones. -/
theorem le_withinWindow_iff {requests : List Time} (hsorted : requests.Pairwise (· ≥ ·)) {n : ℕ}
    {t : Time} : n ≤ withinWindow window t requests ↔
      (requests.take n).length = n ∧ ∀ a ∈ requests.take n, t < a + seconds window := by
  induction requests generalizing n with
  | nil =>
    rw [withinWindow, List.filter_nil, List.take_nil, List.length_nil, Nat.le_zero, eq_comm]
    exact (and_iff_left nofun).symm
  | cons a rest ih =>
    obtain ⟨hle, hrest⟩ := List.pairwise_cons.1 hsorted
    cases n with
    | zero => exact iff_of_true (Nat.zero_le _) ⟨rfl, nofun⟩
    | succ n =>
      rw [List.take_succ_cons, List.length_cons, Nat.add_right_cancel_iff, List.forall_mem_cons]
      by_cases h : t < a + seconds window
      · have hcons : withinWindow window t (a :: rest) = withinWindow window t rest + 1 := by
          rw [withinWindow, List.filter_cons, if_pos (decide_eq_true h), List.length_cons,
            withinWindow]
        rw [hcons, Nat.add_le_add_iff_right, ih hrest, and_iff_right h]
      · -- the ones before `a` are even older
        have hnone : withinWindow window t (a :: rest) = 0 := by
          rw [withinWindow, List.length_eq_zero_iff, List.filter_eq_nil_iff]
          intro b hb hin
          have hba : b ≤ a := by
            rcases List.mem_cons.1 hb with rfl | hb
            · exact le_rfl
            · exact hle b hb
          exact h ((of_decide_eq_true hin).trans_le (add_le_add_left hba _))
        rw [hnone]
        exact iff_of_false (Nat.not_succ_le_zero n) fun hrow => h hrow.2.1

/-- Requests within a window came in a row. -/
theorem isRow_of_window {requests : List Time} {t : Time}
    (hsorted : (t :: requests).Pairwise (· ≥ ·))
    (h : ∀ a ∈ requests, t < a + seconds window) : IsRow window t requests := by
  induction requests generalizing t with
  | nil => trivial
  | cons a rest ih =>
    obtain ⟨hle, hrest⟩ := List.pairwise_cons.1 hsorted
    refine ⟨h a List.mem_cons_self, ih hrest fun b hb => ?_⟩
    exact (hle a List.mem_cons_self).trans_lt (h b (List.mem_cons_of_mem a hb))

end Counts

/-! ## Requests of one client to one path -/

/-- The cache, and the times of the requests that were let pass, the latest first. -/
structure LimiterState where
  cache : Cache
  allowed : List Time

section Runs

variable (paths : List (String × ℤ × ℤ)) (request : HttpRequest) (maxRequests windowSeconds : ℤ)

/-- The request comes at `t`, and not before one that was let pass. -/
def limiterStep (s : LimiterState) (t : Time) : Option LimiterState :=
  if ∀ a ∈ s.allowed, a ≤ t then
    let (refused, cache) := rateLimit paths false s.cache t request
    some ⟨cache, if refused then s.allowed else t :: s.allowed⟩
  else none

/-- The request is refused if and only if enough requests were let pass within the window. -/
def Slides (s : LimiterState) (t : Time) : Prop :=
  (rateLimit paths false s.cache t request).1 = true ↔
    maxRequests ≤ withinWindow windowSeconds t s.allowed

/-- If as many of the last requests as the limit allows came in a row, they came within a window
    before `t`. -/
def HasShortRow (s : LimiterState) (t : Time) : Prop :=
  let row := s.allowed.take maxRequests.toNat
  row.length = maxRequests.toNat → IsRow windowSeconds t row →
    ∀ a ∈ row, t < a + seconds windowSeconds

instance (s : LimiterState) (t : Time) :
    Decidable (HasShortRow maxRequests windowSeconds s t) :=
  inferInstanceAs (Decidable (_ → _ → _))

/-- The entry counts the requests in a row, and they are in their order. -/
structure Counts (s : LimiterState) : Prop where
  counted : ∀ t, s.cache.get t request.rateLimitKey 0 = inARow windowSeconds t s.allowed
  sorted : s.allowed.Pairwise (· ≥ ·)

variable {paths request maxRequests windowSeconds} {s s' : LimiterState} {t : Time}

theorem rateLimit_eq (hpost : request.method = "POST")
    (hmatch : matchPath paths request.path = some (maxRequests, windowSeconds)) :
    rateLimit paths false s.cache t request =
      isLimited s.cache t request (maxRequests, windowSeconds) := by
  rw [rateLimit, if_pos ⟨hpost, rfl⟩, hmatch]

theorem Counts.isLimited_eq (h : Counts request windowSeconds s) :
    (isLimited s.cache t request (maxRequests, windowSeconds)).1 = true ↔
      maxRequests ≤ inARow windowSeconds t s.allowed := by
  unfold isLimited
  dsimp only
  rw [h.counted t]
  split
  next hle => exact iff_of_true rfl hle
  next hle => exact iff_of_false Bool.false_ne_true hle

/-- One request more, and the entry counts it. -/
theorem Counts.step (h : Counts request windowSeconds s) (hpost : request.method = "POST")
    (hmatch : matchPath paths request.path = some (maxRequests, windowSeconds))
    (hstep : limiterStep paths request s t = some s') : Counts request windowSeconds s' := by
  unfold limiterStep at hstep
  obtain ⟨htime, hs'⟩ := Option.ite_none_right_eq_some.1 hstep
  rw [rateLimit_eq hpost hmatch] at hs'
  by_cases hle : maxRequests ≤ s.cache.get t request.rateLimitKey 0
  · have hrefused : isLimited s.cache t request (maxRequests, windowSeconds) = (true, s.cache) :=
      if_pos hle
    rw [hrefused] at hs'
    obtain rfl := Option.some.inj hs'
    exact h
  · have hpassed : isLimited s.cache t request (maxRequests, windowSeconds) =
        (false, s.cache.set t request.rateLimitKey
          (s.cache.get t request.rateLimitKey 0 + 1) windowSeconds) := if_neg hle
    rw [hpassed] at hs'
    obtain rfl := Option.some.inj hs'
    refine ⟨fun t' => ?_, List.pairwise_cons.2 ⟨htime, h.sorted⟩⟩
    -- the entry now lives a window from `t` on
    have hget : (s.cache.set t request.rateLimitKey (s.cache.get t request.rateLimitKey 0 + 1)
        windowSeconds).get t' request.rateLimitKey 0 =
          if t' < t + seconds windowSeconds then s.cache.get t request.rateLimitKey 0 + 1 else 0 := by
      rw [Cache.get, Cache.set, if_pos rfl]
      rfl
    show _ = ((inARow windowSeconds t' (t :: s.allowed) : ℕ) : ℤ)
    rw [hget, inARow, h.counted t]
    split
    next => omega
    next => rfl

/-- The entry counts no request that is not in the row, so only a long row makes a difference. -/
theorem Counts.slides_iff (h : Counts request windowSeconds s) (hpost : request.method = "POST")
    (hmatch : matchPath paths request.path = some (maxRequests, windowSeconds))
    (htime : ∀ a ∈ s.allowed, a ≤ t) :
    Slides paths request maxRequests windowSeconds s t ↔
      HasShortRow maxRequests windowSeconds s t := by
  rw [Slides, rateLimit_eq hpost hmatch, h.isLimited_eq, ← Int.toNat_le, ← Int.toNat_le,
    le_inARow_iff, le_withinWindow_iff _ h.sorted]
  have hsorted : (t :: s.allowed.take maxRequests.toNat).Pairwise (· ≥ ·) := by
    refine List.pairwise_cons.2 ⟨fun a ha => htime a (List.mem_of_mem_take ha), ?_⟩
    exact h.sorted.sublist (List.take_sublist _ _)
  constructor
  · intro hiff hlength hrow
    exact (hiff.1 ⟨hlength, hrow⟩).2
  · intro hshort
    constructor
    · rintro ⟨hlength, hrow⟩
      exact ⟨hlength, hshort hlength hrow⟩
    · rintro ⟨hlength, hwithin⟩
      exact ⟨hlength, isRow_of_window windowSeconds hsorted hwithin⟩

/-- No request was counted yet. -/
theorem counts_start {cache : Cache} (hcache : cache request.rateLimitKey = none) :
    Counts request windowSeconds ⟨cache, []⟩ := by
  refine ⟨fun t => ?_, List.Pairwise.nil⟩
  show (cache request.rateLimitKey).elim 0 _ = (0 : ℤ)
  rw [hcache, Option.elim_none]

theorem Counts.guarded_iff (h : Counts request windowSeconds s) (hpost : request.method = "POST")
    (hmatch : matchPath paths request.path = some (maxRequests, windowSeconds))
    {times : List Time} :
    Guarded (limiterStep paths request) (Slides paths request maxRequests windowSeconds) s times ↔
      Guarded (limiterStep paths request) (HasShortRow maxRequests windowSeconds) s times := by
  have hiff {s s' : LimiterState} {t : Time} (hs : Counts request windowSeconds s)
      (hstep : limiterStep paths request s t = some s') :
      Slides paths request maxRequests windowSeconds s t ↔
        HasShortRow maxRequests windowSeconds s t :=
    hs.slides_iff hpost hmatch (Option.ite_none_right_eq_some.1 hstep).1
  constructor
  · intro hslides
    exact hslides.mono_of_inv h fun s t s' hs hslide hstep =>
      ⟨hs.step hpost hmatch hstep, (hiff hs hstep).1 hslide⟩
  · intro hshort
    exact hshort.mono_of_inv h fun s t s' hs hrow hstep =>
      ⟨hs.step hpost hmatch hstep, (hiff hs hstep).2 hrow⟩

end Runs

/-- Requests of one client to one path are refused as a sliding window would have it if and only if
    no row of requests that is as long as the limit allows takes longer than a window. -/
theorem guarded_slides_iff (paths : List (String × ℤ × ℤ)) (request : HttpRequest)
    (maxRequests windowSeconds : ℤ) (cache : Cache) (times : List Time)
    (hpost : request.method = "POST")
    (hmatch : matchPath paths request.path = some (maxRequests, windowSeconds))
    (hcache : cache request.rateLimitKey = none) :
    Guarded (limiterStep paths request) (Slides paths request maxRequests windowSeconds)
        ⟨cache, []⟩ times ↔
      Guarded (limiterStep paths request) (HasShortRow maxRequests windowSeconds)
        ⟨cache, []⟩ times :=
  (counts_start hcache).guarded_iff hpost hmatch

/-- A customer who checks out. -/
def checkoutRequest : HttpRequest where
  method := "POST"
  path := "/checkout/"
  remoteAddr := some "192.0.2.1"

/-- Six checkouts at once: the last one is refused. -/
theorem guarded_slides_iff_burst :
    Guarded (limiterStep defaultPaths checkoutRequest) (Slides defaultPaths checkoutRequest 5 60)
        ⟨fun _ => none, []⟩ (List.replicate 6 0) ↔
      Guarded (limiterStep defaultPaths checkoutRequest) (HasShortRow 5 60)
        ⟨fun _ => none, []⟩ (List.replicate 6 0) :=
  guarded_slides_iff defaultPaths checkoutRequest 5 60 (fun _ => none) (List.replicate 6 0) rfl
    (by decide +kernel) rfl

/-- The sixth checkout in five minutes is refused, though there was only one in the minute before
    it. -/
theorem not_guarded_slides_spaced : ¬∀ (paths : List (String × ℤ × ℤ)) (request : HttpRequest)
    (maxRequests windowSeconds : ℤ) (cache : Cache) (times : List Time),
    request.method = "POST" →
      matchPath paths request.path = some (maxRequests, windowSeconds) →
      cache request.rateLimitKey = none →
      Guarded (limiterStep paths request) (Slides paths request maxRequests windowSeconds)
        ⟨cache, []⟩ times := by
  intro h
  let times := [0, 50, 100, 150, 200, 240].map seconds
  have hslides := h defaultPaths checkoutRequest 5 60 (fun _ => none) times rfl
    (by decide +kernel) rfl
  have hlong : ¬Guarded (limiterStep defaultPaths checkoutRequest) (HasShortRow 5 60)
      ⟨fun _ => none, []⟩ times := by decide +kernel
  exact hlong (((counts_start rfl).guarded_iff rfl (by decide +kernel)).1 hslides)

end Crumbs
