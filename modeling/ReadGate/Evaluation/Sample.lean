import ReadGate.Value.Basic

/-!
# Sample tables

A small shop: its users, its products and its orders.  Cases run over these tables unless others are
given.
-/

namespace ReadGate.Evaluation

/-- An amount of money, from its cents. -/
def amount (cents : Nat) : Value :=
  .float (.ofDecimal false cents (-2))

/-- A user. -/
def userRow (id : Int) (first last email city : String) : Row :=
  [("id", .int id), ("first_name", .text first), ("last_name", .text last), ("email", .text email),
    ("city", .text city)]

/-- A product; its price is given in cents. -/
def productRow (id : Int) (name category : String) (price : Nat) (stock : Int) : Row :=
  [("id", .int id), ("name", .text name), ("category", .text category), ("price", amount price),
    ("stock_quantity", .int stock)]

/-- An order; its total is given in cents. -/
def orderRow (id user : Int) (total : Nat) (status : String) : Row :=
  [("id", .int id), ("user_id", .int user), ("total_amount", amount total),
    ("status", .text status)]

/-- The users. -/
def userRows : List Row := [
  userRow 1 "John" "Doe" "john.doe@email.com" "New York",
  userRow 2 "Jane" "Smith" "jane.smith@email.com" "Los Angeles",
  userRow 3 "Mike" "Johnson" "mike.johnson@email.com" "Chicago",
  userRow 4 "Sarah" "Williams" "sarah.williams@email.com" "Houston",
  userRow 5 "David" "Brown" "david.brown@email.com" "Chicago"]

/-- The products. -/
def productRows : List Row := [
  productRow 1 "Laptop Pro" "Electronics" 129999 50,
  productRow 2 "Wireless Mouse" "Electronics" 2999 200,
  productRow 3 "Keyboard" "Electronics" 8999 150,
  productRow 4 "Phone Case" "Accessories" 1999 300,
  productRow 5 "Monitor Stand" "Accessories" 3499 75,
  productRow 6 "Desk Lamp" "Office" 2499 100]

/-- The orders. -/
def orderRows : List Row := [
  orderRow 1 1 132998 "completed",
  orderRow 2 2 2999 "pending",
  orderRow 3 3 10998 "completed"]

/-- The tables of the shop. -/
def sampleTables : List (String × List Row) :=
  [("users", userRows), ("products", productRows), ("orders", orderRows)]

end ReadGate.Evaluation
