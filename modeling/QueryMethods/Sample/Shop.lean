/-
A sample interface: one method of every kind of statement, paged.
-/
import QueryMethods.Host.Method
import QueryMethods.Interface.Instance
import QueryMethods.Sample.Beans

namespace QueryMethods.Sample

namespace Shop

def single (t : HostType) : HostArgument := ⟨.single, t⟩

def array (t : HostType) : HostArgument := ⟨.array, t⟩

/-- An account by value. -/
def accountType : HostType := ⟨.bean "Account", false⟩

def methods : List HostMethod :=
  [{ name := "find"
     kind := .select
     template :=
       "SELECT \x7b%%.id\x7d id, \x7b%%.owner\x7d owner FROM accounts WHERE id = \x7b%id\x7d"
     arguments := [(some "id", single (scalar .long))]
     returns := .single accountType },
    { name := "owners"
      kind := .select
      template :=
        "SELECT \x7b%%\x7d FROM accounts WHERE id IN (\x7b%ids\x7d) AND owner = \x7b%owner\x7d"
      arguments :=
        [(some "ids", array (scalar .long)), (some "owner", single (option (scalar .string)))]
      returns := .list (scalar .string) },
    { name := "insert_all"
      kind := .insert
      template := "INSERT INTO accounts VALUES (\x7b%a.id\x7d, \x7b%1.owner\x7d, \x7b%2\x7d)"
      arguments := [(some "a", array accountType), (some "active", single (scalar .bool))]
      returns := .list (scalar .int) },
    { name := "touch"
      kind := .update
      template := "UPDATE accounts SET x = \x7b%n\x7d"
      arguments := [(some "n", single ⟨.unsigned .word32, false⟩)]
      returns := .unit },
    { name := "clear"
      kind := .delete
      template := "DELETE FROM accounts"
      arguments := []
      returns := .single ⟨.unsigned .word64, false⟩ },
    { name := "next"
      kind := .call
      template := "\x7bcall next(\x7b%1\x7d, \x7blong %%\x7d)\x7d"
      arguments := [(some "sequence", single (scalar .string))]
      returns := .single (scalar .long) },
    { name := "by_id"
      kind := .select
      template := "SELECT \x7b%%,%*\x7d id, \x7b%%\x7d owner FROM accounts"
      arguments := []
      returns := .map (scalar .long) (option (scalar .string)) }]

/-- The interface. -/
def interface : Interface :=
  { name := "Shop", paged := true, methods := methods.map HostMethod.declaration }

end Shop

end QueryMethods.Sample
