import IdentityForms.Entries

/-! Schemas: which fields each provider asks for, in categories. -/
namespace IdentityForms

namespace Schema

/-- What a schema says of one field. A field without a usable order has none. -/
structure Field where
  label : String
  order : Option Int64
  required : Bool
  validation : Option String
  deriving DecidableEq

structure Category where
  name : String
  fields : List Field
  deriving DecidableEq

structure Provider where
  categories : List Category
  deriving DecidableEq

/-- How closely a schema document is looked at: `strict` refuses fields without an order and
categories without fields, which `lenient` keeps. -/
inductive Policy where
  | strict
  | lenient
  deriving DecidableEq

def Provider.category? (provider : Provider) (name : String) : Option Category :=
  provider.categories.find? (·.name = name)

end Schema

structure Schema where
  providers : List (String × Schema.Provider)
  deriving DecidableEq

namespace Schema

def empty : Schema := ⟨[]⟩

/-- Adds a provider; one of the same name is replaced where it stands. -/
def put (schema : Schema) (name : String) (provider : Provider) : Schema :=
  ⟨Entries.put name provider schema.providers⟩

def names (schema : Schema) : List String := schema.providers.map Prod.fst

def provider? (schema : Schema) (name : String) : Option Provider :=
  schema.providers.lookup name

def size (schema : Schema) : Nat := schema.providers.length

@[simp] theorem provider?_put (schema : Schema) (name : String) (provider : Provider) :
    (schema.put name provider).provider? name = some provider :=
  Entries.lookup_put_self name provider schema.providers

theorem names_put (schema : Schema) (name : String) (provider : Provider) :
    (schema.put name provider).names =
      if name ∈ schema.names then schema.names else schema.names ++ [name] :=
  Entries.names_put name provider schema.providers

end Schema

end IdentityForms
