/-!
# Limits of machine numbers

The first numbers that do not fit so many bits. They are written out, so that a proof can compare them with
other numbers without computing a power.
-/

namespace Courier

def limit16 : Nat := 65536

def limit31 : Nat := 2147483648

def limit63 : Nat := 9223372036854775808

def limit64 : Nat := 18446744073709551616

end Courier
