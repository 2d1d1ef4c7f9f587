import RowQuery.Table.Basic

/-!
# Sample tables

Four small tables that can be queried without loading anything.
-/

namespace RowQuery.Samples

/-- The names of the tables. -/
def names : List String := ["employees", "sales", "products", "customers"]

/-- Rows that all have the same columns. -/
def uniform (columns : List String) (cells : List (List Json)) : List Row :=
  cells.map columns.zip

/-- People, where they work and what they earn. -/
def employees : List Row :=
  uniform ["id", "first_name", "last_name", "department", "salary", "hire_date"]
    [[.number (.int 1), .string "Alice", .string "Johnson",
        .string "Engineering", .number (.int 95000), .string "2022-01-15"],
     [.number (.int 2), .string "Bob", .string "Smith",
        .string "Engineering", .number (.int 85000), .string "2022-03-20"],
     [.number (.int 3), .string "Carol", .string "Williams",
        .string "Sales", .number (.int 70000), .string "2022-06-10"],
     [.number (.int 4), .string "David", .string "Brown",
        .string "Sales", .number (.int 75000), .string "2023-01-05"],
     [.number (.int 5), .string "Eve", .string "Davis",
        .string "Marketing", .number (.int 65000), .string "2023-03-15"],
     [.number (.int 6), .string "Frank", .string "Miller",
        .string "Engineering", .number (.int 105000), .string "2021-09-01"]]

/-- What was sold, where and for how much. -/
def sales : List Row :=
  uniform ["id", "product_id", "region", "amount", "sale_date"]
    [[.number (.int 1), .number (.int 1),
        .string "US", .number (.float 1999.98), .string "2024-01-05"],
     [.number (.int 2), .number (.int 2),
        .string "EU", .number (.float 127.5), .string "2024-01-05"],
     [.number (.int 3), .number (.int 3),
        .string "APAC", .number (.float 225.0), .string "2024-01-12"],
     [.number (.int 4), .number (.int 4),
        .string "US", .number (.float 599.98), .string "2024-01-19"],
     [.number (.int 5), .number (.int 5),
        .string "EU", .number (.float 199.99), .string "2024-02-02"],
     [.number (.int 6), .number (.int 6),
        .string "APAC", .number (.float 699.98), .string "2024-02-09"],
     [.number (.int 7), .number (.int 7),
        .string "US", .number (.float 90.0), .string "2024-02-16"]]

/-- What is for sale, how much of it is there and at which price. -/
def products : List Row :=
  uniform ["id", "product_name", "category", "quantity", "price"]
    [[.number (.int 1), .string "Laptop",
        .string "Electronics", .number (.int 42), .number (.float 999.99)],
     [.number (.int 2), .string "Mouse",
        .string "Electronics", .number (.int 310), .number (.float 25.5)],
     [.number (.int 3), .string "Keyboard",
        .string "Electronics", .number (.int 95), .number (.float 75.0)],
     [.number (.int 4), .string "Desk",
        .string "Furniture", .number (.int 18), .number (.float 299.99)],
     [.number (.int 5), .string "Chair",
        .string "Furniture", .number (.int 64), .number (.float 199.99)],
     [.number (.int 6), .string "Monitor",
        .string "Electronics", .number (.int 120), .number (.float 349.99)],
     [.number (.int 7), .string "Lamp",
        .string "Furniture", .number (.int 7), .number (.float 45.0)]]

/-- Who buys, and how often. -/
def customers : List Row :=
  uniform ["id", "name", "email", "city", "orders"]
    [[.number (.int 1), .string "Acme Corp",
        .string "orders@acme.example", .string "Chicago", .number (.int 14)],
     [.number (.int 2), .string "Globex",
        .string "buying@globex.example", .string "Berlin", .number (.int 9)],
     [.number (.int 3), .string "Initech",
        .string "it@initech.example", .string "Austin", .number (.int 3)],
     [.number (.int 4), .string "Umbrella",
        .string "supply@umbrella.example", .string "Singapore", .number (.int 21)]]

/-- The rows of a table by its name. -/
def table? (name : String) : Option Table :=
  if name = "employees" then some (Table.ofRows employees)
  else if name = "sales" then some (Table.ofRows sales)
  else if name = "products" then some (Table.ofRows products)
  else if name = "customers" then some (Table.ofRows customers)
  else none

end RowQuery.Samples
