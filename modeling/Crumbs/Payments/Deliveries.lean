import Crumbs.Payments.Webhooks

/-!
# Deliveries of an Event

A gateway delivers an event until it is told that the delivery was processed, so the same event
arrives any number of times. `processWebhook` runs the handler in one transaction with the
`processed` flag: the first delivery whose handler returns takes effect, the ones before it leave
the database as it was, and the ones after it do not run the handler.

## Contents

- `processWebhook_processed`, `processWebhook_returns`, `processWebhook_raises`: one delivery
- `Delivery`, `deliver`: deliveries of one event
- `effects_once`: any sequence of them
- `notesFailure_iff`: what is left of a delivery whose handler raises
-/

namespace Crumbs

open Crumbs.Db

variable {π κ : Type}

/-! ## Events -/

namespace Database

/-- The event has been processed. -/
def isProcessed (db : Database) (id : String) : Prop :=
  ∃ event, db.events id = some event ∧ event.processed = true

theorem setEvent_self {db : Database} {id : String} {event : PaymentEvent}
    (h : db.events id = some event) : db.setEvent id event = db := by
  have hevents : (fun id' => if id' = id then some event else db.events id') = db.events := by
    funext id'
    split
    · subst id'
      exact h.symm
    · rfl
  rw [setEvent, hevents]

end Database

/-! ## One delivery -/

section Single

variable {env : Env} {provider : WebhookProvider π κ} {payload : π} {signature : String}
  {event : VerifiedWebhookEvent κ} {w : World Database (List Observation)}

theorem ofExcept_verified (h : provider.verifyWebhook payload signature = .ok event) :
    (Tx.ofExcept (provider.verifyWebhook payload signature) : DbTx _) w = (.ok event, w) := by
  rw [h]
  rfl

/-- A delivery that cannot be verified changes nothing. -/
theorem processWebhook_refused {e : Exn}
    (h : provider.verifyWebhook payload signature = .error e) :
    processWebhook env provider payload signature w = (.error e, w) := by
  have hx : (Tx.ofExcept (provider.verifyWebhook payload signature) : DbTx _) w = (.error e, w) := by
    rw [h]
    rfl
  exact Tx.atomic_of_error (Tx.bind_of_error hx)

/-- A delivery of an event that has been processed changes nothing. -/
theorem processWebhook_processed (env : Env)
    (h : provider.verifyWebhook payload signature = .ok event)
    (hdone : w.db.isProcessed event.eventId) :
    ∃ e, processWebhook env provider payload signature w = (.ok (event.eventId, e), w) := by
  obtain ⟨e, he, hprocessed⟩ := hdone
  have hreceived : receivedEvent w.db provider event = e := by rw [receivedEvent, he]; rfl
  refine ⟨e, Tx.atomic_of_ok ((Tx.bind_of_ok (ofExcept_verified h)).trans ?_)⟩
  refine (Tx.bind_of_ok (x := Tx.getDb) rfl).trans ?_
  rw [hreceived]
  refine (Tx.bind_of_ok (x := Tx.modifyDb _) rfl).trans ?_
  rw [Database.setEvent_self he]
  exact Tx.ite_of hprocessed

theorem receivedEvent_unprocessed {db : Database} (h : ¬db.isProcessed event.eventId) :
    ¬(receivedEvent db provider event).processed = true := by
  rw [receivedEvent]
  cases he : db.events event.eventId with
  | none => exact Bool.false_ne_true
  | some e => exact fun hprocessed => h ⟨e, he, hprocessed⟩

/-- The database with the event's row, as the handler finds it. -/
def withReceived (w : World Database (List Observation)) (provider : WebhookProvider π κ)
    (event : VerifiedWebhookEvent κ) : World Database (List Observation) :=
  { w with db := w.db.setEvent event.eventId (receivedEvent w.db provider event) }

theorem runHandler_returns (id : String) {handler : ShopTx Unit} {w' : World Shop (List Observation)}
    (h : handler ⟨w.db.shop, w.ext⟩ = (.ok (), w')) :
    runHandler id handler w = (.ok (), ⟨{ w.db with shop := w'.db }, w'.ext⟩) :=
  Tx.catching_of_ok (Tx.zoom_apply h)

theorem runHandler_raises (id : String) {handler : ShopTx Unit} {e : Exn}
    {w' : World Shop (List Observation)} (h : handler ⟨w.db.shop, w.ext⟩ = (.error e, w')) :
    ∃ db, runHandler id handler w = (.error (.webhookProcessingError e.text), ⟨db, w'.ext⟩) :=
  ⟨_, (Tx.catching_of_error (Tx.zoom_apply h)).trans (Tx.bind_of_ok (x := Tx.modifyDb _) rfl)⟩

/-- A handler that returns has its writes committed, together with the `processed` flag. -/
theorem processWebhook_returns (env : Env)
    (h : provider.verifyWebhook payload signature = .ok event)
    (hnew : ¬w.db.isProcessed event.eventId) {w' : World Shop (List Observation)}
    (hrun : provider.handleWebhookEvent event ⟨w.db.shop, w.ext⟩ = (.ok (), w')) :
    ∃ e db, processWebhook env provider payload signature w =
        (.ok (event.eventId, e), ⟨db, w'.ext⟩) ∧
      e.processed = true ∧ db.shop = w'.db ∧ db.isProcessed event.eventId ∧
      ∀ id, id ≠ event.eventId → db.events id = w.db.events id := by
  have hhandler := runHandler_returns (w := withReceived w provider event) event.eventId hrun
  refine ⟨(receivedEvent w.db provider event).markProcessed env.now,
    ({ (withReceived w provider event).db with shop := w'.db } : Database).updateEvent
      event.eventId (·.markProcessed env.now),
    Tx.atomic_of_ok ((Tx.bind_of_ok (ofExcept_verified h)).trans ?_), rfl, ?shop, ?processed,
    fun id hid => ?_⟩
  · refine (Tx.bind_of_ok (x := Tx.getDb) rfl).trans ?_
    refine (Tx.bind_of_ok (x := Tx.modifyDb _) (v := withReceived w provider event) rfl).trans ?_
    refine (Tx.ite_of_not (receivedEvent_unprocessed hnew)).trans ?_
    exact (Tx.bind_of_ok hhandler).trans (Tx.bind_of_ok (x := Tx.modifyDb _) rfl)
  case shop => rfl
  case processed =>
    refine ⟨(receivedEvent w.db provider event).markProcessed env.now, ?_, rfl⟩
    simp [Database.updateEvent, withReceived, Database.setEvent]
  · simp [Database.updateEvent, withReceived, Database.setEvent, hid]

/-- A handler that raises leaves the database as it was, without a trace of the event. -/
theorem processWebhook_raises (env : Env)
    (h : provider.verifyWebhook payload signature = .ok event)
    (hnew : ¬w.db.isProcessed event.eventId) {w' : World Shop (List Observation)} {e : Exn}
    (hrun : provider.handleWebhookEvent event ⟨w.db.shop, w.ext⟩ = (.error e, w')) :
    processWebhook env provider payload signature w =
      (.error (.webhookProcessingError e.text), ⟨w.db, w'.ext⟩) := by
  obtain ⟨db, hhandler⟩ :=
    runHandler_raises (w := withReceived w provider event) event.eventId hrun
  refine (Tx.atomic_of_error (v := ⟨db, w'.ext⟩)
    ((Tx.bind_of_ok (ofExcept_verified h)).trans ?_)).trans rfl
  refine (Tx.bind_of_ok (x := Tx.getDb) rfl).trans ?_
  refine (Tx.bind_of_ok (x := Tx.modifyDb _) (v := withReceived w provider event) rfl).trans ?_
  exact (Tx.ite_of_not (receivedEvent_unprocessed hnew)).trans (Tx.bind_of_error hhandler)

end Single

/-! ## Deliveries of one event -/

/-- A delivery of the event `id` by a provider, with whatever payload and signature. -/
structure Delivery (π κ : Type) (id : String) where
  env : Env
  provider : WebhookProvider π κ
  payload : π
  signature : String
  event : VerifiedWebhookEvent κ
  verified : provider.verifyWebhook payload signature = .ok event
  eventId_eq : event.eventId = id

section Deliveries

variable {id : String}

/-- The world that a delivery leaves; its transaction is the outermost one. -/
def deliver (w : World Database (List Observation)) (d : Delivery π κ id) :
    World Database (List Observation) :=
  (processWebhook d.env d.provider d.payload d.signature w).2

/-- What the handler of a delivery does by itself, on the shop alone. -/
def Delivery.handle (d : Delivery π κ id) (w : World Database (List Observation)) :
    Except Exn Unit × World Shop (List Observation) :=
  d.provider.handleWebhookEvent d.event ⟨w.db.shop, w.ext⟩

/-- The handler returns, and leaves the shop as `shop`. -/
def Delivery.ReturnsWith (d : Delivery π κ id) (w : World Database (List Observation))
    (shop : Shop) : Prop := ∃ trace, d.handle w = (.ok (), ⟨shop, trace⟩)

/-- The handler raises. -/
def Delivery.Raises (d : Delivery π κ id) (w : World Database (List Observation)) : Prop :=
  ∃ e w', d.handle w = (.error e, w')

variable {w : World Database (List Observation)} {d : Delivery π κ id}

theorem deliver_processed (hdone : w.db.isProcessed id) : deliver w d = w := by
  obtain ⟨e, he⟩ := processWebhook_processed d.env d.verified (d.eventId_eq ▸ hdone)
  rw [deliver, he]

theorem deliver_returns {shop : Shop} (hnew : ¬w.db.isProcessed id) (h : d.ReturnsWith w shop) :
    (deliver w d).db.shop = shop ∧ (deliver w d).db.isProcessed id := by
  obtain ⟨trace, hhandle⟩ := h
  have hnew' : ¬w.db.isProcessed d.event.eventId := by rwa [d.eventId_eq]
  obtain ⟨_, db, hrun, -, hshop, hdone, -⟩ :=
    processWebhook_returns d.env d.verified hnew' hhandle
  rw [d.eventId_eq] at hdone
  rw [deliver, hrun]
  exact ⟨hshop, hdone⟩

theorem deliver_raises (hnew : ¬w.db.isProcessed id) (h : d.Raises w) :
    (deliver w d).db = w.db := by
  obtain ⟨e, w', hhandle⟩ := h
  have hnew' : ¬w.db.isProcessed d.event.eventId := by rwa [d.eventId_eq]
  rw [deliver, processWebhook_raises d.env d.verified hnew' hhandle]

/-- A handler returns or raises. -/
theorem Delivery.returns_or_raises (d : Delivery π κ id) (w : World Database (List Observation)) :
    (∃ shop, d.ReturnsWith w shop) ∨ d.Raises w := by
  rcases h : d.handle w with ⟨e | _, w'⟩
  · exact .inr ⟨e, w', h⟩
  · exact .inl ⟨w'.db, w'.ext, h⟩

theorem deliverAll_processed (ds : List (Delivery π κ id)) (hdone : w.db.isProcessed id) :
    ds.foldl deliver w = w := by
  induction ds with
  | nil => rfl
  | cons d rest ih => rw [List.foldl_cons, deliver_processed hdone, ih]

/-- Every handler of the sequence raises. -/
def AllRaise (w : World Database (List Observation)) : List (Delivery π κ id) → Prop
  | [] => True
  | d :: rest => d.Raises w ∧ AllRaise (deliver w d) rest

/-- As long as the handlers raise, the database stays as it was. -/
theorem db_deliverAll_of_allRaise (ds : List (Delivery π κ id)) (hnew : ¬w.db.isProcessed id)
    (h : AllRaise w ds) : (ds.foldl deliver w).db = w.db := by
  induction ds generalizing w with
  | nil => rfl
  | cons d rest ih =>
    have hdb := deliver_raises hnew h.1
    rw [List.foldl_cons, ih (by rwa [hdb]) h.2, hdb]

/-- The first delivery whose handler returns, if there is one. -/
theorem allRaise_or_first (ds : List (Delivery π κ id)) :
    ∀ {w : World Database (List Observation)}, ¬w.db.isProcessed id → AllRaise w ds ∨
      ∃ before d rest shop, ds = before ++ d :: rest ∧ AllRaise w before ∧
        d.ReturnsWith (before.foldl deliver w) shop := by
  induction ds with
  | nil => exact fun _ => .inl trivial
  | cons d rest ih =>
    intro w hnew
    rcases d.returns_or_raises w with ⟨shop, hreturns⟩ | hraises
    · exact .inr ⟨[], d, rest, shop, rfl, trivial, hreturns⟩
    · rcases ih (w := deliver w d) (by rwa [deliver_raises hnew hraises]) with
        hall | ⟨before, d', rest', shop, rfl, hbefore, hreturns⟩
      · exact .inl ⟨hraises, hall⟩
      · exact .inr ⟨d :: before, d', rest', shop, rfl, ⟨hraises, hbefore⟩, hreturns⟩

/-- Any sequence of deliveries of one event: once the event is processed nothing changes any
    more. An event that is not processed yet either stays so, with the database as it was, because
    all handlers raise; or the first handler that returns, run on that database, is the only one
    whose writes are committed. -/
theorem effects_once (w : World Database (List Observation)) (ds : List (Delivery π κ id)) :
    (∀ before rest, ds = before ++ rest → (before.foldl deliver w).db.isProcessed id →
      ds.foldl deliver w = before.foldl deliver w) ∧
    (¬w.db.isProcessed id →
      AllRaise w ds ∧ (ds.foldl deliver w).db = w.db ∨
      ∃ before d rest shop, ds = before ++ d :: rest ∧
        AllRaise w before ∧ (before.foldl deliver w).db = w.db ∧
        d.ReturnsWith (before.foldl deliver w) shop ∧
        (ds.foldl deliver w).db.shop = shop ∧ (ds.foldl deliver w).db.isProcessed id ∧
        ds.foldl deliver w = deliver (before.foldl deliver w) d) := by
  constructor
  · rintro before rest rfl hdone
    rw [List.foldl_append, deliverAll_processed rest hdone]
  · intro hnew
    rcases allRaise_or_first ds hnew with hall | ⟨before, d, rest, shop, rfl, hbefore, hreturns⟩
    · exact .inl ⟨hall, db_deliverAll_of_allRaise ds hnew hall⟩
    · have hdb := db_deliverAll_of_allRaise before hnew hbefore
      obtain ⟨hshop, hdone⟩ := deliver_returns (by rwa [hdb]) hreturns
      have hrest : (before ++ d :: rest).foldl deliver w = deliver (before.foldl deliver w) d := by
        rw [List.foldl_append, List.foldl_cons, deliverAll_processed rest hdone]
      refine .inr ⟨before, d, rest, shop, rfl, hbefore, hdb, hreturns, ?_, ?_, hrest⟩
      · rw [hrest, hshop]
      · rw [hrest]
        exact hdone

end Deliveries

/-! ### A retried delivery -/

/-- A delivery of the event `evt_1`, whose handler raises or writes a log. -/
def scripted (raises : Bool) : Delivery Unit Unit "evt_1" where
  env := {}
  provider :=
    { providerName := .stripe
      verifyWebhook := fun _ _ => .ok { eventId := "evt_1", eventType := "test", dataObject := () }
      handleWebhookEvent := fun _ =>
        if raises then Tx.raise (.builtinError "timed out")
        else Tx.modifyDb fun shop => shop.addStatusLog
          { order := 0, fromStatus := .paid, toStatus := .paid, note := "", actor := "" } }
  payload := ()
  signature := ""
  event := { eventId := "evt_1", eventType := "test", dataObject := () }
  verified := rfl
  eventId_eq := rfl

/-- A shop that sells nothing. -/
def emptyShop : Shop := { stock := { products := fun _ => ⟨"", 0, .comingSoon⟩ } }

/-- A failed delivery is repeated, and repeated once more after it has succeeded. -/
theorem effects_once_scripted :
    ([scripted true, scripted false, scripted false].foldl deliver ⟨{ shop := emptyShop }, []⟩) =
      deliver (deliver ⟨{ shop := emptyShop }, []⟩ (scripted true)) (scripted false) :=
  (effects_once ⟨{ shop := emptyShop }, []⟩ [scripted true, scripted false, scripted false]).1
    [scripted true, scripted false] [scripted false] rfl ⟨_, rfl, rfl⟩

/-! ## What a failed delivery leaves -/

section Failed

variable {env : Env} {provider : WebhookProvider π κ} {payload : π} {signature : String}
  {event : VerifiedWebhookEvent κ} {w : World Database (List Observation)}
  {w' : World Shop (List Observation)} {exc : Exn}

/-- The event has a row that says that its processing has failed, and how. -/
def Database.NotesFailure (db : Database) (id : String) (exc : Exn) : Prop :=
  ∃ event, db.events id = some event ∧ event.processed = false ∧ event.processingError = exc.text

/-- The note of a failure is written inside the transaction that the exception then leaves, and is
    rolled back with it: it is there afterwards exactly if it was there before. -/
theorem notesFailure_iff (h : provider.verifyWebhook payload signature = .ok event)
    (hnew : ¬w.db.isProcessed event.eventId)
    (hraises : provider.handleWebhookEvent event ⟨w.db.shop, w.ext⟩ = (.error exc, w')) :
    (processWebhook env provider payload signature w).1 =
        .error (.webhookProcessingError exc.text) ∧
      ((processWebhook env provider payload signature w).2.db.NotesFailure event.eventId exc ↔
        w.db.NotesFailure event.eventId exc) := by
  rw [processWebhook_raises env h hnew hraises]
  exact ⟨rfl, Iff.rfl⟩

/-- Every event that has a row has been processed. -/
def Database.AllProcessed (db : Database) : Prop :=
  ∀ id event, db.events id = some event → event.processed = true

theorem Database.AllProcessed.not_notesFailure {db : Database} (h : db.AllProcessed) (id : String)
    (exc : Exn) : ¬db.NotesFailure id exc := by
  rintro ⟨event, hrow, hunprocessed, -⟩
  exact Bool.false_ne_true (hunprocessed.symm.trans (h id event hrow))

/-- A delivery leaves no unprocessed row behind, however it ends. -/
theorem processWebhook_allProcessed (h : w.db.AllProcessed) :
    (processWebhook env provider payload signature w).2.db.AllProcessed := by
  cases hverify : provider.verifyWebhook payload signature with
  | error e =>
    rw [processWebhook_refused hverify]
    exact h
  | ok event =>
    by_cases hdone : w.db.isProcessed event.eventId
    · obtain ⟨e, hrun⟩ := processWebhook_processed env hverify hdone
      rw [hrun]
      exact h
    · rcases hhandle : provider.handleWebhookEvent event ⟨w.db.shop, w.ext⟩ with ⟨e | _, w'⟩
      · rw [processWebhook_raises env hverify hdone hhandle]
        exact h
      · obtain ⟨_, db, hrun, -, -, ⟨e, hrow, hprocessed⟩, hothers⟩ :=
          processWebhook_returns env hverify hdone hhandle
        rw [hrun]
        intro id event' hrow'
        by_cases hid : id = event.eventId
        · subst hid
          exact Option.some.inj (hrow.symm.trans hrow') ▸ hprocessed
        · exact h id event' ((hothers id hid).symm.trans hrow')

/-- A callback for an authority that no payment has. -/
def unknownCallback : ZarinpalPaymentProvider.CallbackPayload :=
  .object (some "A9") none (some "OK") none none

/-- Its event. -/
def unknownCallbackEvent : VerifiedWebhookEvent ZarinpalPaymentProvider.CallbackData where
  eventId := "zarinpal:authority:A9"
  eventType := "payment.callback"
  dataObject := { authority := "A9", status := some "OK", paymentId := none }

theorem verifyWebhook_unknownCallback :
    (ZarinpalPaymentProvider.webhooks {}).verifyWebhook unknownCallback "" =
      .ok unknownCallbackEvent := rfl

theorem handleWebhookEvent_unknownCallback :
    (ZarinpalPaymentProvider.webhooks {}).handleWebhookEvent unknownCallbackEvent
      ⟨emptyShop, []⟩ = (.error (.doesNotExist "Payment"), ⟨emptyShop, []⟩) := rfl

theorem notesFailure_iff_unknownCallback :
    ¬(processWebhook {} (ZarinpalPaymentProvider.webhooks {}) unknownCallback ""
      ⟨{ shop := emptyShop }, []⟩).2.db.NotesFailure "zarinpal:authority:A9"
        (.doesNotExist "Payment") := fun hnote =>
  have hnew : ¬({ shop := emptyShop } : Database).isProcessed "zarinpal:authority:A9" := nofun
  have hiff : (processWebhook {} (ZarinpalPaymentProvider.webhooks {}) unknownCallback ""
        ⟨{ shop := emptyShop }, []⟩).1 = _ ∧ (_ ↔ _) :=
    notesFailure_iff verifyWebhook_unknownCallback hnew handleWebhookEvent_unknownCallback
  nomatch hiff.2.1 hnote

/-- A callback for an unknown authority fails, and no row says so. -/
theorem not_forall_notesFailure :
    ¬∀ (env : Env) (payload : ZarinpalPaymentProvider.CallbackPayload) (signature : String)
      (event : VerifiedWebhookEvent ZarinpalPaymentProvider.CallbackData)
      (w : World Database (List Observation)) (w' : World Shop (List Observation)) (exc : Exn),
      (ZarinpalPaymentProvider.webhooks env).verifyWebhook payload signature = .ok event →
      ¬w.db.isProcessed event.eventId →
      (ZarinpalPaymentProvider.webhooks env).handleWebhookEvent event ⟨w.db.shop, w.ext⟩ =
        (.error exc, w') →
      (processWebhook env (ZarinpalPaymentProvider.webhooks env) payload signature
        w).2.db.NotesFailure event.eventId exc := by
  intro h
  have hnew : ¬({ shop := emptyShop } : Database).isProcessed "zarinpal:authority:A9" := nofun
  have hrun := processWebhook_raises {} (w := ⟨{ shop := emptyShop }, []⟩)
    verifyWebhook_unknownCallback hnew handleWebhookEvent_unknownCallback
  obtain ⟨_, hrow, -⟩ := h {} unknownCallback "" unknownCallbackEvent ⟨{ shop := emptyShop }, []⟩ _ _
    verifyWebhook_unknownCallback hnew handleWebhookEvent_unknownCallback
  rw [hrun] at hrow
  exact nomatch hrow

end Failed

end Crumbs
