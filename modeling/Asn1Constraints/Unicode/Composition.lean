import Asn1Constraints.Unicode.CodePoints

/-!
Composed and decomposed characters of Unicode 17. Two texts that look the same have
the same composed form: characters are taken apart, marks are put in order, and what
can be one character becomes one again. Characters that are mapped to others where
this is used, and so never occur, are left out of the tables.
-/

namespace Asn1Constraints.Composition

/-! Classes of marks. -/

/-- The classes of marks, and the marks of each. Other characters have class zero. -/
def classTable : List (Nat × List String) := [
  (1, ["zUEgm1ANG-JBECKBDBb6kNAyfWEunJAfgIC"]),
  (6, ["c7-QB"]),
  (7, ["cj2Ad5Ad5Ad5Ad5Ah5Ad5A70Acx2AfRAcQAbdl1AzyGAfYAcWAdLAfSAcRBiJAd2Ah2AhWAmCAiIA-4AbtaHA"]),
  (8, ["meZB"]),
  (9, ["ckNAd5Ad5Ad5Ad5Ad5Ad5Ad5AdNBQAd2AdPAd5AgJAfUBbwZB4Ae3AuNAhDAdFBcGBemLA+uGAbFAeXAeOAdMAjV",
       "AhWAxsRAbqGAbJAOAbZAdZBeLAdUAfUAdCAeACdRAd5Ah2Ad5AdWAdUAiNAiDBfBAcTASAcRAnFAiEBcRAnJBqpM",
       "A"]),
  (10, ["bnQA"]),
  (11, ["bnRA"]),
  (12, ["bnSA"]),
  (13, ["bnTA"]),
  (14, ["bnUA"]),
  (15, ["bnVA"]),
  (16, ["bnWA"]),
  (17, ["bnXA"]),
  (18, ["bnYAOA"]),
  (19, ["bnZB"]),
  (20, ["bn1A"]),
  (21, ["bn2A"]),
  (22, ["bn3A"]),
  (23, ["bn5A"]),
  (24, ["boBA"]),
  (25, ["boCA"]),
  (26, ["b+y4A"]),
  (27, ["bsLAvEA"]),
  (28, ["bsMAvEA"]),
  (29, ["bsNAvEA"]),
  (30, ["bqYAbVA"]),
  (31, ["bqZAbVA"]),
  (32, ["bq0AbVA"]),
  (33, ["bsRA"]),
  (34, ["bsSA"]),
  (35, ["btQA"]),
  (36, ["byRA"]),
  (84, ["dcVA"]),
  (91, ["dcWA"]),
  (103, ["drYB"]),
  (107, ["dsID"]),
  (118, ["dvYB"]),
  (122, ["dwID"]),
  (129, ["d7RA"]),
  (130, ["d7SAHDCA"]),
  (132, ["d7UA"]),
  (202, ["zBBEBgvHA"]),
  (214, ["hoOA"]),
  (216, ["y1Ada3AdqrLBHE"]),
  (218, ["hp0AerPA"]),
  (220, ["yWDCECDCKFDKCDBEDCBrWAEAEAGFCA0AePBFACAeDAGACAcDACACCBBBADABABABAfJAKAc1Cb3CbTEPACACAD",
         "CGACBcXAboFB1ABAeOAgGAcfNAg2AdGAbVFCABBCBFASAIAeFAlIECDNAgUAHAEAbJADABAxIADDbcb1CmGAu7",
         "SG+PAhCAbzMAbMAfLAbaTBBCcGBDABDbSABAbqpVHHBe7CAiAAxAG"]),
  (222, ["bm0ASAe8LAfxTA"]),
  (224, ["mbOB"]),
  (226, ["dulNA"]),
  (228, ["bnOAex0AbkNBerSA"]),
  (230, ["yAUbIHBADCDCEADAHMiTEiKDBCCFGBBBCAUAcLHb1BCEBBdXGCDBACBCBcDABBBBDACABCBABABABBfAGBAbCD",
         "BIBCBEdJBDDbKEFNCBBBBCGCBBCEcRABBfJAbmDBCB+VCbd3Ak2Ag2Ac3HbTEGBEBCEBRDFBDeAABGk2CHBEAT",
         "ADBgGBBGBBEbEFACAwRBCDDBEAFABAGAc-4ChO5+dPAEJbABcQBpORn4ABBDBFBBAu64GHBbkGEbuUAbIAfMAr",
         "4DcBEj3Be1CBAbVABAl1CtDGDEhJAvwRGzsOEbADeUCdn1GBQCGBBBEdEAfAGlXAb3Dp5Ah4AhUACAHBFAsOF"]),
  (232, ["yVAEAb3Agu3AerVAdnf5B"]),
  (233, ["62ACACAguZA"]),
  (234, ["63BBBf8JAxBA"]),
  (240, ["6FA"])]

def classes : List (Nat × CodePoints) := classTable.map fun row => (row.1, .ofLines row.2)

/-- Marks of different classes stand next to each other in any order. -/
def classOf (c : Char) : Nat :=
  if c.toNat < 0x300 then 0
  else ((classes.find? fun row => row.2.has c).map Prod.fst).getD 0

/-- Put a mark behind those of lower classes. -/
def insertMark (c : Char) : List Char → List Char
  | [] => [c]
  | d :: rest =>
    if classOf d != 0 && classOf d < classOf c then d :: insertMark c rest else c :: d :: rest

/-- Marks behind one character in the order of their classes. -/
def ordered (chars : List Char) : List Char := chars.foldr insertMark []

/-! Composed characters and their two parts. -/

/-- Each composed character, by the gap before it, and its parts, in turn. -/
def compositionTable : List String := [
  "gAcByAAcByBAcByCAcByDAcByIAcByKBcDzHAcFyAAcFyBAcFyCAcFyIAcJyAAcJyBAcJyCAcJyIBcOyDAcPyAAcPyBAc",
  "PyCAcPyDAcPyICcVyAAcVyBAcVyCAcVyIAcZyBCdByAAdByBAdByCAdByDAdByIAdByKBdDzHAdFyAAdFyBAdFyCAdFyI",
  "AdJyAAdJyBAdJyCAdJyIBdOyDAdPyAAdPyBAdPyCAdPyDAdPyICdVyAAdVyBAdVyCAdVyIAdZyBBdZyIAcByEAdByEAcB",
  "yGAdByGAcBzIAdBzIAcDyBAdDyBAcDyCAdDyCAcDyHAdDyHAcDyMAdDyMAcEyMAdEyMCcFyEAdFyEAcFyGAdFyGAcFyHA",
  "dFyHAcFzIAdFzIAcFyMAdFyMAcHyCAdHyCAcHyGAdHyGAcHyHAdHyHAcHzHAdHzHAcIyCAdIyCCcJyDAdJyDAcJyEAdJy",
  "EAcJyGAdJyGAcJzIAdJzIAcJyHDcKyCAdKyCAcLzHAdLzHBcMyBAdMyBAcMzHAdMzHAcMyMAdMyMEcOyBAdOyBAcOzHAd",
  "OzHAcOyMAdOyMDcPyEAdPyEAcPyGAdPyGAcPyLAdPyLCcSyBAdSyBAcSzHAdSzHAcSyMAdSyMAcTyBAdTyBAcTyCAdTyC",
  "AcTzHAdTzHAcTyMAdTyMAcUzHAdUzHAcUyMAdUyMCcVyDAdVyDAcVyEAdVyEAcVyGAdVyGAcVyKAdVyKAcVyLAdVyLAcV",
  "zIAdVzIAcXyCAdXyCAcZyCAdZyCAcZyIAc0yBAd0yBAc0yHAd0yHAc0yMAd0yMbBcPy1AdPy1NcVy1AdVy12cByMAdByM",
  "AcJyMAdJyMAcPyMAdPyMAcVyMAdVyMAg2yEAh2yEAg2yBAh2yBAg2yMAh2yMAg2yAAh2yABgEyEAhEyEArGyEArHyEAgG",
  "yEAhGyECcHyMAdHyMAcLyMAdLyMAcPzIAdPzIApKyEApLyEAnXyMAuSyMAdKyMDcHyBAdHyBCcOyAAdOyAAgFyBAhFyBA",
  "gGyBAhGyBAgYyBAhYyBAcByPAdByPAcByRAdByRAcFyPAdFyPAcFyRAdFyRAcJyPAdJyPAcJyRAdJyRAcPyPAdPyPAcPy",
  "RAdPyRAcSyPAdSyPAcSyRAdSyRAcVyPAdVyPAcVyRAdVyRAcTzGAdTzGAcUzGAdUzGCcIyMAdIyMGcByHAdByHAcFzHAd",
  "FzHAgWyEAhWyEAgVyEAhVyEAcPyHAdPyHArOyEArPyEAcZyEAdZyEkRfIyBA8RyBB8VyBA8XyBA8ZyBB85yBB9FyBA9Jy",
  "BA+KyBZ8ZyIA9FyIA9RyBA9VyBA9XyBA9ZyBA+LyBZ9ZyIA+FyIA95yBA+FyBA+JyBE+SyBA+SyIbLbaVyAAbaVyIBbaT",
  "yBDbaGyIEba0yBAbaYyAAbbDyGKbaYyG5bbYyGWbbVyAAbbVyIBbbTyBDbcWyIEbb0yBAbbYyAAbcDyGXbdUyPAbdVyPc",
  "JbaWyGAbbWyGNbaQyGAbbQyGAbaQyIAbbQyICbaVyGAbbVyGCbgYyIAbgZyIAbaWyIAbbWyIAbaXyIAbbXyICbaYyEAbb",
  "YyEAbaYyIAbbYyIAba4yIAbb4yICbhIyIAbhJyIAbbNyIAbcNyIAbbDyEAbcDyEAbbDyIAbcDyIAbbDyLAbcDyLAbbHyI",
  "AbcHyICbbLyIAbcLyIjIbrHbsTAbrHbsUAbsIbsUAbrHbsVAbsKbsUeZbwVbsUBbwBbsUQbwSbsUsVcjIcj2HcjQcj2Cc",
  "jTcj2eWcoHcn4AcoHcoXl1c6Hc6WCc6Hcz4Ac6Hc6XcHc8Sc+XbVc+Gc94Ac+Hc94Ac+Gc+Xd1dcGdcWdXdf5dgVGdgGd",
  "gVAdgGdgWBdgGdgCAdgKdgVd4dkGdj4AdkHdj4AdkGdkXeNdoZdoKBdoZdoPAdo2doKAdoZdo5sHebFebOcw5gyFgzVBg",
  "yHgzVBgyJgzVBgyLgzVBgyNgzVDgyRgzVbIgz0gzVBgz2gzVCgz4gzVAgz5gzVBg6CgzVv2cBzFAdBzFAcCyHAdCyHAcC",
  "zDAdCzDAcCzRAdCzRAgHyBAhHyBAcEyHAdEyHAcEzDAdEzDAcEzRAdEzRAcEzHAdEzHAcEzNAdEzNAiSyAAiTyAAiSyBA",
  "iTyBAcFzNAdFzNAcFzQAdFzQArIyGArJyGAcGyHAdGyHAcHyEAdHyEAcIyHAdIyHAcIzDAdIzDAcIyIAdIyIAcIzHAdIz",
  "HAcIzOAdIzOAcJzQAdJzQAgPyBAhPyBAcLyBAdLyBAcLzDAdLzDAcLzRAdLzRAcMzDAdMzDAhrWyEAhrXyEAcMzRAdMzR",
  "AcMzNAdMzNAcNyBAdNyBAcNyHAdNyHAcNzDAdNzDAcOyHAdOyHAcOzDAdOzDAcOzRAdOzRAcOzNAdOzNAgVyBAhVyBAgV",
  "yIAhVyIAkMyAAkNyAAkMyBAkNyBAcQyBAdQyBAcQyHAdQyHAcSyHAdSyHAcSzDAdSzDAhs0yEAhs1yEAcSzRAdSzRAcTy",
  "HAdTyHAcTzDAdTzDAk0yHAk1yHAlAyHAlByHAhtCyHAhtDyHAcUyHAdUyHAcUzDAdUzDAcUzRAdUzRAcUzNAdUzNAcVzE",
  "AdVzEAcVzQAdVzQAcVzNAdVzNAlIyBAlJyBAlKyIAlLyIAcWyDAdWyDAcWzDAdWzDAcXyAAdXyAAcXyBAdXyBAcXyIAdX",
  "yIAcXyHAdXyHAcXzDAdXzDAcYyHAdYyHAcYyIAdYyIAcZyHAdZyHAc0yCAd0yCAc0zDAd0zDAc0zRAd0zRAdIzRAdUyIA",
  "dXyKAdZyKBl5yHEcBzDAdBzDAcByJAdByJAgCyBAhCyBAgCyAAhCyAAgCyJAhCyJAgCyDAhCyDAhvAyCAhvByCAiCyBAi",
  "DyBAiCyAAiDyAAiCyJAiDyJAiCyDAiDyDAhvAyGAhvByGAcFzDAdFzDAcFyJAdFyJAcFyDAdFyDAgKyBAhKyBAgKyAAhK",
  "yAAgKyJAhKyJAgKyDAhKyDAhvYyCAhvZyCAcJyJAdJyJAcJzDAdJzDAcPzDAdPzDAcPyJAdPyJAgUyBAhUyBAgUyAAhUy",
  "AAgUyJAhUyJAgUyDAhUyDAhwMyCAhwNyCAnAyBAnByBAnAyAAnByAAnAyJAnByJAnAyDAnByDAnAzDAnBzDAcVzDAdVzD",
  "AcVyJAdVyJAnPyBAnQyBAnPyAAnQyAAnPyJAnQyJAnPyDAnQyDAnPzDAnQzDAcZyAAdZyAAcZzDAdZzDAcZyJAdZyJAcZ",
  "yDAdZyDG9RyTA9RyUAhyAyAAhyByAAhyAyBAhyByBAhyA6CAhyB6CA8RyTA8RyUAhyIyAAhyJyAAhyIyBAhyJyBAhyI6C",
  "AhyJ6CA9VyTA9VyUAhyQyAAhyRyAAhyQyBAhyRyBC8VyTA8VyUAhyYyAAhyZyAAhyYyBAhyZyBC9XyTA9XyUAhzAyAAhz",
  "ByAAhzAyBAhzByBAhzA6CAhzB6CA8XyTA8XyUAhzIyAAhzJyAAhzIyBAhzJyBAhzI6CAhzJ6CA9ZyTA9ZyUAhzQyAAhzR",
  "yAAhzQyBAhzRyBAhzQ6CAhzR6CA8ZyTA8ZyUAhzYyAAhzZyAAhzYyBAhzZyBAhzY6CAhzZ6CA95yTA95yUAh6AyAAh6By",
  "AAh6AyBAh6ByBC85yTA85yUAh6IyAAh6JyAAh6IyBAh6JyBC+FyTA+FyUAh6QyAAh6RyAAh6QyBAh6RyBAh6Q6CAh6R6C",
  "B9FyUBh6ZyABh6ZyBBh6Z6CA+JyTA+JyUAh7AyAAh7ByAAh7AyBAh7ByBAh7A6CAh7B6CA9JyTA9JyUAh7IyAAh7JyAAh",
  "7IyBAh7JyBAh7I6CAh7J6CA9RyAB9VyAB9XyAB9ZyAB95yAB+FyAB+JyADhyA6FAhyB6FAhyC6FAhyD6FAhyE6FAhyF6F",
  "AhyG6FAhyH6FAhyI6FAhyJ6FAhyK6FAhyL6FAhyM6FAhyN6FAhyO6FAhyP6FAhzA6FAhzB6FAhzC6FAhzD6FAhzE6FAhz",
  "F6FAhzG6FAhzH6FAhzI6FAhzJ6FAhzK6FAhzL6FAhzM6FAhzN6FAhzO6FAhzP6FAh7A6FAh7B6FAh7C6FAh7D6FAh7E6F",
  "Ah7F6FAh7G6FAh7H6FAh7I6FAh7J6FAh7K6FAh7L6FAh7M6FAh7N6FAh7O6FAh7P6FA9RyGA9RyEAh7Q6FA9R6FA9M6FB",
  "9R6CAh9W6FA8RyGA8RyEA8RyAB8R6FEfI6CAh7U6FA9X6FA9O6FB9X6CAh+G6FA8VyAB8XyAB8X6FAh95yAAh95yBAh95",
  "6CA9ZyGA9ZyEA+KyAD9Z6CA+K6CA8ZyGA8ZyEA8ZyACh-4yAAh-4yBAh-46CA+FyGA+FyEA+LyAB+ByTA+ByUA+F6CA+L",
  "6CA9FyGA9FyEA9FyAB9ByUAfIyAEh726FA+J6FA+O6FB+J6CAh-W6FA85yAB9JyAB9J6Fm3imQzYAimSzYSimUzY4ioQz",
  "YAioUzYAioSzYbUiqDzYEiqIzYCiqLzYXirDzYBirFzY0ir2zYCisDzYCisFzYBisIzYWb3zYBitBzYKisNzYAb2zYAb4",
  "zYAitEzYAitFzYCitSzYAitTzYCitWzYAitXzYGit0zYAit1zYCiuCzYAiuDzYCiuGzYAiuHzYbCivCzYAivIzYAivJzY",
  "AivLzYbQit2zYAit3zYAiuRzYAiuSzYGivSzYAivTzYAivUzYAivVzYdk4mcLmeZBmcNmeZBmcPmeZBmcRmeZBmcTmeZB",
  "mcVmeZBmcXmeZBmcZmeZBmc1meZBmc3meZBmc5meZBmdBmeZCmdEmeZBmdGmeZBmdImeZGmdPmeZAmdPme0BmdSmeZAmd",
  "Sme0BmdVmeZAmdVme0BmdYmeZAmdYme0Bmd1meZAmd1me0WmcGmeZJme3meZNmfLmeZBmfNmeZBmfPmeZBmfRmeZBmfTm",
  "eZBmfVmeZBmfXmeZBmfZmeZBmf1meZBmf3meZBmf5meZBmgBmeZCmgEmeZBmgGmeZBmgImeZGmgPmeZAmgPme0BmgSmeZ",
  "AmgSme0BmgVmeZAmgVme0BmgYmeZAmgYme0Bmg1meZAmg1me0WmfGmeZCmhPmeZAmhQmeZAmhRmeZAmhSmeZDmh3meZbv",
  "gKcboSyH0cbo0yHcvVceeZcef0Bcee1cef0OcefFcef0eCcejRcejHAcejScejHq1ce6Hcez4Ace6Hce6XbWce8Cce+JB",
  "ce8Ece91Ice8Lce+CCce8Qce+JbTce+Cce+CBce+Cce9YAce+Cce+JhScffZcff0AcffZcffQBcffZcff3h1cfnYcfnPA",
  "cfnZcfnP72cgjVcgjQr-Icyi4cyi4Acyi4cyjJAcyi4cyi5AcyjJcyi5Acyi4cyjAAcyjBcyi5AcyjCcyi5AcyjBcyjAd",
  "b5c7lHc7lHAc7lDc7lHAc7lJc7lH"]

/-- A composed character and its two parts. -/
structure Compound where
  whole : Char
  first : Char
  second : Char
deriving Repr

def compoundsFrom (start : Nat) : List Nat → List Compound
  | gap :: first :: second :: rest =>
    ⟨Char.ofNat (start + gap), Char.ofNat first, Char.ofNat second⟩
      :: compoundsFrom (start + gap + 1) rest
  | _ => []

def compounds : List Compound :=
  compoundsFrom 0 (CodePoints.numbers compositionTable)

/-! Syllables of jamos: a lead, a vowel, and maybe a tail. -/

def firstSyllable : Nat := 0xac00
def leadCount : Nat := 19
def vowelCount : Nat := 21
def tailCount : Nat := 28

/-- The number of the first jamo in a row that a character is in, from zero. -/
def jamo? (start count : Nat) (c : Char) : Option Nat :=
  if start ≤ c.toNat && c.toNat < start + count then some (c.toNat - start) else none

def lead? (c : Char) : Option Nat := jamo? 0x1100 leadCount c
def vowel? (c : Char) : Option Nat := jamo? 0x1161 vowelCount c

/-- Tails are counted from one. -/
def tail? (c : Char) : Option Nat := (jamo? 0x11a8 (tailCount - 1) c).map (· + 1)

def syllable? (c : Char) : Option Nat :=
  jamo? firstSyllable (leadCount * vowelCount * tailCount) c

def jamosOf (syllable : Nat) : List Char :=
  let lead := syllable / (vowelCount * tailCount)
  let vowel := syllable / tailCount % vowelCount
  let tail := syllable % tailCount
  [Char.ofNat (0x1100 + lead), Char.ofNat (0x1161 + vowel)]
    ++ if tail = 0 then [] else [Char.ofNat (0x11a7 + tail)]

/-- A lead and a vowel, or a syllable without tail and a tail, as one syllable. -/
def syllableOf? (first second : Char) : Option Char :=
  match lead? first, vowel? second with
  | some lead, some vowel =>
    some (Char.ofNat (firstSyllable + (lead * vowelCount + vowel) * tailCount))
  | _, _ =>
    match syllable? first, tail? second with
    | some syllable, some tail =>
      if syllable % tailCount = 0 then some (Char.ofNat (firstSyllable + syllable + tail))
      else none
    | _, _ => none

/-! Composed texts. -/

/-- The parts of a character that cannot be taken apart any further; a part is taken
apart again at most so many times. -/
def parts : Nat → Char → List Char
  | 0, c => [c]
  | budget + 1, c =>
    if c.toNat < 0xc0 then [c]
    else
      match syllable? c with
      | some syllable => jamosOf syllable
      | none =>
        match compounds.find? fun compound => compound.whole == c with
        | some compound => parts budget compound.first ++ parts budget compound.second
        | none => [c]

/-- The greatest number of times that a character can be taken apart is less. -/
def partBudget : Nat := 8

def decomposed (chars : List Char) : List Char := ordered (chars.flatMap (parts partBudget))

/-- One character for two, where there is one. -/
def composedOf? (first second : Char) : Option Char :=
  (syllableOf? first second).orElse fun _ =>
    (compounds.find? fun compound =>
      compound.first == first && compound.second == second).map Compound.whole

/-- A text while it is composed: what is finished, last character first, the latest
character that is no mark, and the marks behind it that have not become part of it. -/
structure Composing where
  finished : List Char
  base : Option Char
  marks : List Char

namespace Composing

def start : Composing := ⟨[], none, []⟩

/-- All characters so far, the last one first. -/
def reversed (text : Composing) : List Char :=
  text.marks ++ text.base.toList ++ text.finished

/-- Whether a mark stands between the base and a character and keeps them apart. -/
def isBlocked (text : Composing) (c : Char) : Bool :=
  text.marks.head?.any fun mark => classOf c ≤ classOf mark

def add (text : Composing) (c : Char) : Composing :=
  let whole? := if text.isBlocked c then none else text.base.bind fun base => composedOf? base c
  match whole? with
  | some whole => { text with base := some whole }
  | none =>
    if classOf c = 0 then ⟨text.reversed, some c, []⟩
    else { text with marks := c :: text.marks }

end Composing

/-- A text in composed form: equal characters are written alike. -/
def composed (chars : List Char) : List Char :=
  ((decomposed chars).foldl Composing.add .start).reversed.reverse

end Asn1Constraints.Composition
