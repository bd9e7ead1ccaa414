/-!
# Pages of registers

The peripherals of the nRF51 are reached through 32-bit words at fixed addresses, 1024 of them to a
page. A page here is plain memory: a word holds what was last written to it, and a register is named
by its byte offset within the page.
-/

namespace DeadlineTimers.Nrf51

def pageWords : Nat := 1024

def pageBytes : Nat := 4 * pageWords

/-- A page of registers. -/
structure Page where
  words : Vector UInt32 pageWords := .replicate pageWords 0
  deriving DecidableEq

namespace Page

/-- Reads the word at a byte offset. Beyond the page there is nothing but zeros. -/
def read (page : Page) (offset : Nat) : UInt32 := page.words[offset / 4]?.getD 0

/-- Writes the word at a byte offset. Beyond the page a write is lost. -/
def write (page : Page) (offset : Nat) (value : UInt32) : Page :=
  ⟨page.words.setIfInBounds (offset / 4) value⟩

/-- Tests whether all bits of a mask are set in the word at a byte offset. -/
def test (page : Page) (offset : Nat) (mask : UInt32) : Bool := page.read offset &&& mask == mask

/-- The words of the page that are not zero, with their byte offsets, ascending. -/
def nonZero (page : Page) : List (Nat × UInt32) :=
  page.words.toList.zipIdx.filterMap fun (word, index) =>
    if word = 0 then none else some (4 * index, word)

theorem read_write_self (page : Page) {offset : Nat} (value : UInt32) (inside : offset < pageBytes) :
    (page.write offset value).read offset = value := by
  have : offset / 4 < pageWords := by simp only [pageBytes] at inside; omega
  simp [read, write, this]

theorem read_write_of_ne (page : Page) {offset other : Nat} (value : UInt32)
    (different : offset / 4 ≠ other / 4) :
    (page.write offset value).read other = page.read other := by
  simp [read, write, different]

end Page

end DeadlineTimers.Nrf51
