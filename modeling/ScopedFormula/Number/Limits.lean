/- The powers of two at which machine numbers end. Integers lie below 2^63 and not below its
   opposite, their exponents below 2^32; whole exponents of floats that make a product lie below 2^31
   and not below its opposite. In the bits of a float the fraction lies below 2^52, the exponent
   below 2^11, and 2^63 is the sign. -/
namespace ScopedFormula

def integerLimit : Nat := 0x8000000000000000

def exponentLimit : Nat := 0x100000000

def productLimit : Nat := 0x80000000

def fractionLimit : Nat := 0x10000000000000

def fieldLimit : Nat := 0x800

end ScopedFormula
