namespace VariantSearch.Word

def least : Int := -0x8000000000000000

def greatest : Int := 0x7FFFFFFFFFFFFFFF

def fits (n : Int) : Bool := decide (least ≤ n ∧ n ≤ greatest)

end VariantSearch.Word
