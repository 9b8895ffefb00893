/-!
# Fixed-width integer ranges

The bounds of the machine integers that the wire formats read and write: 32- and 64-bit,
signed and unsigned. They are written as numerals, not as powers of two, so that each bound
is one closed term whatever instances of exponentiation are in scope.
-/

namespace FleetTelemetry.Word

def i32Min : Int := -2147483648

def i32Max : Int := 2147483647

def u32Max : Nat := 4294967295

def i64Min : Int := -9223372036854775808

def i64Max : Int := 9223372036854775807

def u64Max : Nat := 18446744073709551615

end FleetTelemetry.Word
