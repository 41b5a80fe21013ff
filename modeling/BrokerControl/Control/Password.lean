/-!
# Passwords

A generated password has sixteen characters, each a letter or digit of ASCII.
-/

namespace BrokerControl.Control.Password

def alphabet : List Char := "ABCDEFGHIJKLMNOPQRSTUVWXYZabcdefghijklmnopqrstuvwxyz0123456789".toList

def size : Nat := 16

/-- The password for sixteen numbers, whatever their range. -/
def ofDraws (draw : Fin size → Nat) : String :=
  String.ofList (List.ofFn fun i => alphabet.getD (draw i % alphabet.length) '0')

end BrokerControl.Control.Password
