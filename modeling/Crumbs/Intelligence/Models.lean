import Crumbs.Db.Dict
import Crumbs.Growth.Models
import Mathlib.Algebra.Order.Ring.Rat

/-!
# Models of Intelligence

The tables of the `intelligence` app with the fields that its services read or write.

## Contents

- `ProductCoPurchase`, `ProductDailyStats`: statistics of the orders that are paid
- `growthPaidStatuses`, `Shop.growthPaidOrders`: the orders that they are made of
- `CatalogProduct`, `Customer`, `RecommendationData`: what recommendations are made from
- `coffeeShop`, `coffeeData`, `cookieData`: a shop with two paid orders, and its catalogue
-/

namespace Crumbs

open Crumbs.Db

/-- The order of a pair of products is that of the columns. -/
structure ProductCoPurchase where
  product : ProductId
  relatedProduct : ProductId
  coCount : ℕ := 0
  affinityScore : ℚ := 0
  deriving DecidableEq

/-- The columns of the constraint `unique_co_purchase_pair` -/
def ProductCoPurchase.pair (row : ProductCoPurchase) : ProductId × ProductId :=
  (row.product, row.relatedProduct)

/-- `PAID_PAYMENT_STATUSES` of the growth services -/
def growthPaidStatuses : List OrderPaymentStatus := [.paid, .cashReceived]

/-- `Order.objects.filter(payment_status__in=PAID_PAYMENT_STATUSES)`, the newest first -/
def Shop.growthPaidOrders (shop : Shop) : List (ℕ × Order) :=
  (shop.orders.filter fun o => decide (o.paymentStatus ∈ growthPaidStatuses)).mergeSort
    fun e e' => decide (e'.2.createdAt ≤ e.2.createdAt)

/-- A row, without the product and the date that it is found by. -/
structure ProductDailyStats where
  unitsSold : ℕ := 0
  revenue : Money := 0
  orderCount : ℕ := 0
  peakHour : Option ℕ := none
  weekday : Option ℕ := none
  hourlyDistribution : List (ℕ × ℕ) := []
  deriving DecidableEq

/-- The rows by product and date; a product has at most one for each date. -/
abbrev DailyStatsTable := ProductId → Date → Option ProductDailyStats

/-! ## The catalogue and the customers -/

structure Category where
  pk : ℕ
  name : String
  slug : String
  deriving DecidableEq, Repr

structure ProductIntelligenceMeta where
  marginBoost : ℚ := 1
  isCookie : Bool := false
  isCoffee : Bool := false
  deriving DecidableEq

/-- A product with the columns that recommendations look at. -/
structure CatalogProduct extends Product where
  pk : ProductId
  category : Category
  isFeatured : Bool := false
  updatedAt : Time := 0
  intelligenceMeta : Option ProductIntelligenceMeta := none
  deriving DecidableEq

/-- `preferred_product_ids` are numbers that were product keys when the profile was computed. -/
structure CustomerIntelligenceProfile where
  preferredProductIds : List ProductId := []
  categoryAffinity : List (String × ℚ) := []

/-- A user with the two profiles. -/
structure Customer where
  pk : UserId
  isActive : Bool := true
  clvProfile : Option CustomerCLVProfile := none
  intelligenceProfile : Option CustomerIntelligenceProfile := none

/-- The tables that recommendations are made from. The products are in the order of their model.
Rows that a query does not order come in the order that the database arranges them in. -/
structure RecommendationData where
  products : List CatalogProduct
  pk_unique : (products.map (·.pk)).Nodup
  customers : List Customer := []
  shop : Shop
  coPurchases : List ProductCoPurchase := []
  arrange : List (ProductId × ℕ) → List (ProductId × ℕ) := id
  arrange_perm : ∀ rows, (arrange rows).Perm rows := by exact fun _ => .refl _

namespace RecommendationData

variable (data : RecommendationData)

/-- `Product.objects.get(pk=…)` -/
def product (p : ProductId) : Option CatalogProduct := data.products.find? fun q => q.pk = p

theorem product_eq_some_iff (p : ProductId) (q : CatalogProduct) :
    data.product p = some q ↔ q ∈ data.products ∧ q.pk = p := by
  unfold product
  constructor
  · intro h
    exact ⟨List.mem_of_find?_eq_some h, by simpa using List.find?_some h⟩
  · rintro ⟨hq, rfl⟩
    cases found : data.products.find? fun q' => q'.pk = q.pk with
    | none => simpa using List.find?_eq_none.1 found q hq
    | some q' =>
      have same : q'.pk = q.pk := by simpa using List.find?_some found
      rw [List.inj_on_of_nodup_map data.pk_unique (List.mem_of_find?_eq_some found) hq same]

/-- The items of the paid orders of some users. -/
def paidItemsOf (users : List UserId) : List OrderItem :=
  (data.shop.orders.filter fun o =>
    decide (o.paymentStatus ∈ growthPaidStatuses ∧ ∃ u ∈ users, o.user = some u)).flatMap
      fun e => data.shop.orderItems e.1

/-- `.values("product_id").annotate(qty=Sum("quantity"))` -/
def quantities (items : List OrderItem) : List (ProductId × ℕ) :=
  data.arrange (Dict.group OrderItem.product (fun n item => n + item.quantity) 0 items).items

end RecommendationData

/-- A shop in which coffee and cookies are bought together. -/
def coffeeShop : Shop where
  stock := { products := fun _ => { name := "", price := 0, availabilityStatus := .available } }
  orders := (Table.empty.insert paidOnline).insert paidOnline
  orderItems := fun _ => [item 1, item 2]
where
  paidOnline : Order :=
    { orderNumber := "C-1", user := none, email := "", status := .paid, paymentStatus := .paid,
      paymentMethod := .online, deliveryType := .pickup, deliveryFee := 0, subtotal := 200000,
      total := 200000, createdAt := 0 }
  item (p : ProductId) : OrderItem :=
    { product := p, productName := "", unitPrice := 100000, quantity := 1, lineTotal := 100000,
      fulfillmentDate := none, quantity_pos := Nat.one_pos }

def coffee (p : ProductId) (name : String) : CatalogProduct :=
  { name, price := 100000, availabilityStatus := .available, pk := p,
    category := { pk := 1, name := "Coffee", slug := "coffee" } }

/-- The catalogue of that shop: two coffees. -/
def coffeeData : RecommendationData where
  products := [coffee 1 "Latte", coffee 2 "Mocha"]
  pk_unique := by decide
  shop := coffeeShop

/-- A cookie, with its row of weights. -/
def cookie : CatalogProduct where
  name := "Chocolate"
  price := 50000
  availabilityStatus := .available
  pk := 3
  category := { pk := 2, name := "Cookies", slug := "cookies" }
  intelligenceMeta := some { isCookie := true }

/-- The shop that has a cookie too, with a latte in the cart. -/
def cookieData : RecommendationData where
  products := [coffee 1 "Latte", coffee 2 "Mocha", cookie]
  pk_unique := by decide
  shop := { coffeeShop with
    cartItems := fun _ => [{ product := 1, quantity := 1, quantity_pos := Nat.one_pos }] }

end Crumbs
