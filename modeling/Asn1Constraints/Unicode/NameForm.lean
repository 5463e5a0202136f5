import Asn1Constraints.Unicode.Category
import Asn1Constraints.Unicode.Folding

/-!
The forms of characters in names of hosts, as UTS 46 gives them for Unicode 17.
Letters become small, and characters that only look different become the same;
some characters are passed over, and some must not be there.
-/

namespace Asn1Constraints.NameForm

/-! Characters that names never have, and those that are passed over. -/

def refused : CodePoints :=
  (CodePoints.ofCodes ["Cn", "Co"]).union (CodePoints.ofRuns [
    (0x80, 0x9f), (0x600, 0x605), (0x61c, 0x61c), (0x6dd, 0x6dd), (0x70f, 0x70f),
    (0x890, 0x891), (0x8e2, 0x8e2), (0x1680, 0x1680), (0x200e, 0x200f), (0x2024, 0x2026),
    (0x2028, 0x202e), (0x2066, 0x2069), (0x2488, 0x249b), (0x2ff0, 0x2fff), (0x31ef, 0x31ef),
    (0x33c2, 0x33c2), (0x33c7, 0x33c7), (0x33d8, 0x33d8), (0xfe12, 0xfe12), (0xfe19, 0xfe19),
    (0xfe30, 0xfe30), (0xfe52, 0xfe52), (0xfff9, 0xfffd), (0x110bd, 0x110bd),
    (0x110cd, 0x110cd), (0x13430, 0x1343f), (0x1f100, 0x1f100), (0xe0001, 0xe0001),
    (0xe0020, 0xe007f)])

def passedOver : CodePoints :=
  CodePoints.ofRuns [
    (0xad, 0xad), (0x34f, 0x34f), (0x115f, 0x1160), (0x17b4, 0x17b5), (0x180b, 0x180f),
    (0x200b, 0x200b), (0x2060, 0x2064), (0x206a, 0x206f), (0x3164, 0x3164), (0xfe00, 0xfe0f),
    (0xfeff, 0xfeff), (0xffa0, 0xffa0), (0x1bca0, 0x1bca3), (0x1d173, 0x1d17a),
    (0xe0100, 0xe01ef)]

/-! Characters that become others. -/

/-- Runs of characters that become the characters of another run: the gap before a
run, what follows its first character, and the first character of the other run, in
turn. -/
def runTable : List String := [
  "fAAbAJAdBHBbSFAbRAAdPpVAdIAAtGAAdKAAdSAAtZAAt1AAuBAAdXAAdZbHAtDAAdMAAdTAAdYAAuVc1ByABAyTbQAvZ",
  "JAb1IAfXcKA+FAA+NAA+L3A+DGA+DcySAdyLpPAeg2dbPAdBAAhGAAdCBBdEAAo3AHdHBAdPAArDAAdQAAdSABdUAAdXA",
  "AdBABsQAAhiCAAdCABdEAAsZABs1AAdHBAdLAAdNAAkLAAdPAAsUABhiWAAdQABdUAAhi3AAtPAAdWAAhjFAC9SAB+GAA",
  "dJAAdSABdVAB9SAA+BAB+GNAbb3bCAsSAAdDAAsVAAhQAAs2AAdGAAs5AAtBAAtFACtIAAhl1AAu3AAtNAAhmFAAu5AAt",
  "RAAtQADtSAAtYABuCAAnLABuJAAhi2ABuLAAd0ACuQAA9YnRA9MBA9NBA9OBA9PBA+MBA+NBA+Ob3A9MNA9NBA9OPA9PP",
  "A+NDAdAJA+MBA+OEAbAAAbAAAbAAAbAAAbAAAbAAAbAAAbAAAbAAAbAAAbAGAiaQ3AbAbPAbAQAbQAAdJCFbUAAbLAAiq",
  "SAAb3ABbIAAdOAJbQAAbLAAiqSAAb3ABbIBAdBAAdFAAdPAAdYAAsZAAdIADdLAAdQABdTdFAdDEAs1CBdHAAdIAAdIAA",
  "dIAAjHAAdJAAdJAAdMAAdMBAdODCdQAAdSAAdSGAd0DAd0DBdCBAdFABdFBAdNAAdPADboQAAdJCA+AAA9TAA9TAA+AAA",
  "iqREAdEABdEABdJWAdJDAdWEAdYCAdMABdDAAdNAAdJDAdWEAdYCAdMABdDAAdNnJBmaIjVIbRcNZdBAZdBAAbQb8RAdK",
  "AAdWhRAllBjPA6+NcTAbh85MAtqAAAtrIAAtrWAAtr5AAtsZAAtuFAAtuMAAtvAAAtv0AAuj5AAulFAAulLAAumCAAumW",
  "AAunLAAupAAAupVAAuqAAAuu1AAuxZAAuyVAAuy0AAuzYAAu6BAAu62AAu7JAAu8CAAu9WAAu+IAAu-DAAvwXAAvy5AAw",
  "hLAAwiCAAwiKAAwiVAAwjHAAwlTAAw6QAAw8AAAw-YAAxaPAAxbCAAxbYAAxdOAAxdRAAxo1AAxpFAAxpRAAxp4AAxtSA",
  "Axt0AAxt5AAxxUAAxx4AAxyLAAxyTAAx6QAAx7BAAx7TAAx+DAAyqIAAyrWAAysLAAzjPAAzjUAAzmHAAzmXAAznEAAzn",
  "ZAAzpAAAzpFAAzxQAAzyIAAzzIAA6zAAA67CAA67ZAA69TAA6+LAA6+UAA6+1AA7aPAA7aUAA7bUAA8dLAA8rKAA8rWAA",
  "8r1AA8r5AA8sHAA8sZAA8s1AA8vMAA88EAA88JAA9g2AA9hGAA9iYAA9i5AA9jIAA9jQAA9mLAA9mSAA9tWAA9t3AA9vO",
  "AA9v5AA9xOAA9+1AA9-CAA9-TAA+j0AA+nYAA+n4AA+tUAA+wLAA+xZAA-dTAA-hYAA-zWAA-6RAA-8KAA-93AAbaaBAA",
  "baaMAAbaaSAAbabTAAbad5AAbaeJAAbapDAAbapKAAbapTAAbap2AAbaqMAAbaq1AAbaq5AAbatOAAbatSAAbatYAAbbs",
  "NAAbbtLAAbccAAAbccMAAbcdDAAbcl4AAbcmLAAbcoSAAbcqAAAbdbXAAbdcGAAbdcVAAbddYAAbde3AAbdlEAAbdlQAA",
  "bdnTAAbdvLAAbdwKAAbd81AAbd9QAAbd9VAAbeeRAAbekJAAbeoGAAbeoMAAbeoRAAbflXAAbfmAAAbfq2AAbfvWAAbfv",
  "ZAAbfxIAAbf6RAAbf64AAbf7CAAbf7JAAbf+LAAbf-NAAbf-TAAbgaBAAbgfIAAbgg1AAbgg5AAbgmWAAbgmZAAbgnMAA",
  "bgvIAAbgwYAAbgw5AAbgzFAAbgzPAAbgzSAAbgz2AAbg60AAbhhFAAbhtVAAbht5AAbhvFAAbhv1AAbhwDAAbhwNAAbhw",
  "RAAbhxZAAbhx3AAbhyOAAbhyTAAbhzAAAbhz1AAbh6KAAbh6SAAbh8NAAbh82AAbh9AbKAbABAbObTAmaSBAu6BABu6Eh",
  "WBeiAAAenKAAeiCABenMACeiDAFenQAAei0ACeiGAAejBAJeiJAUelBBBeiUABeoHAAeoMAAeoOAAeoTAAeoXAAeoZAAe",
  "i2AAeo3AAeo5ABei3AAejAABejCAAejHAAejJAEejLAAejSAAejWAAekAAAekHAAekMABepRACekXABemEAAemIABemRA",
  "AemUAAem4AAenBDAtqAAAtuMAAtqJAAvw1AAtqKAAtrNAAtqLAA9jSAAtsZAAtqZAAtqBAAwjJAAvzQAAtv0fEAvkPAAx",
  "t2AAzmHAA+8PYAeiAABeiCACeiFAAeiJABeiLAEeiOAAblaAAAbmeYAAbmxEAAbn72AAbooIAAbpaUAAbqfMAAbrkEAAb",
  "r8QAAbtbIAAbttUAAbugAAAbuyMAAbvkYCAbrvQBAtqAAAtuMAAtqJAAvw1AAtuUAAulNAAtqDAAulLAAts3AAu6BAAzy",
  "IAA8dLAA7bUAAzzIAAbeoRAAvy5AAzpFAA6bKAAzyJAA+j4AAvaNAA8tZAAbdfBAA+k3AAuvUAA+oYAA9jXAAwlTAAbed",
  "JAAujKAAu7QAA7hIAAbgaFAAtyRAAumZAA67DAAtqKAAtrNAAtqLAAxpGAAu-TAAuz1AAw8XAAw7GAA9xDAAtyBAAbdgH",
  "AAu6UAAwi25AmfCAAmfEAAmfGAAmfIABmfKAAmfNAAmfPAAmfRAAmfTAAmfVAAmfXAAmfZAAmf1AAmf3AAmf5AAmgBAAm",
  "gEAAmgGAAmgIAFmgKAAmgSAAmgVAAmgYAAmg1AEmg4AAmhEAAmhGAFmhIADmhP883AbcKAAbcMgSAbj7PeAAdTAAdDAAd",
  "GAAdRDAjHAAkT7CAbjzHAAbkzXAAtLAAbk6SJAuNtmWAbdcIAAzxUAAbdwKAAbdgIAA7wRAAtrSAAu-FAAbh82AAbh82A",
  "AwkRAAbeoRAAvmHAAwkIAAypWAA9tJAA-8FAAbbr5AAbb90AAbchYAAbeePAA6qCAA7i1AA8gZAA8+4AAbbb3AAbelKAA",
  "bgpRAAtuCAAu7VAA6yEAA8q1AAbbrNAAbhq4AAxkQAA7-LAAbboNAAbclEAAywJAAbaoYAAbca5AAxwKAAzyXAA7lKAA8",
  "x2AAbegOAAt8GAAunXAAuw4AAzgEAA6wTAA8qQAA9xHAAbaaBAAbbqGAAbbs2AAbdpPAAbfzSAAbg7PAAbhp0AA+eMAA+",
  "l5AA-nAAAba+JAAbeyEAAbht5AAbcwWAAwg5AAxyEAA-dAAAbad4AA8tCAA+gKAAbdgCAAbfxXAAwgYAAxdCAA6qTAA7o",
  "0AA7yPAA-jPAA-rXAAbfsLAAuwSAAbaeLAAuo2AAuoMAA+q2AA-n4AAba-RAAbftVAAbc8AAAywPAA6qCAAbcx4AAtrZA",
  "Aw-HAAyaSAA88HAA9lQAAuyXAA+h1AAt95AAx9JAAtqNAA7gMAAzlYAA-jCAAu+DAAwc4AA9yBAAbbcJAAbcvKAA690AA",
  "bd9QAA7eIAAyx4AAbaxFAAy9AAA9lFAAtvOAAulJAAuoJAA6eBAA-hHAAbatPAAbcwSAAbeoPAAuxVAAvcCAAwlTAAxxM",
  "AAzoFAA7-4AA+jKAAbfnNAAbgtKAAbhuXAAbhwOAAuu1AAzwGAA67XAAbd7CAAxtUAAymQAAyqAAAze0AA7zDAA8kJAA9",
  "eJAA+oKAA-pUAAbadPAAbdzGAAbbhOAAbebDAAbe6KAAuqXAAuvDAAvf3AA8gIAAbcgCAAbcvKAAxwJAAx-VAAy71AA69",
  "OAA-b4AA87VAAtxEAAvxZAAw-HAAxn0AAya2AA89SAA9dJAA-80AAbacGAAberUAAbfxWAAbf6IAAbgaYAAt8LAA+nOAA",
  "benUAAbfvYAAyhBAAtuGAAug0AAw-OAAxb5AAzmZAA6qCAA8oOAA9sCAAbbh2AAbed2AAbh8NAAzuIAAbfrOAAuuJAAz7",
  "1AAz-TAA7kBAA7u2AA9aJAA9kZAA+dLAA-iQAAbgc4AAulNAAyrOAAbftYAAubLAAxiZAA7pKAAbdzKAAx8LAAykEAA6a",
  "XAA88HAAbfuGAAurJAAvaPAAxdFAAzqTAAz6OAA6fIAA7hFAA9aGAA9pCAA-7ZAAbcgPAAbchBAAbeoMAAbfxCAAuz5AA",
  "7v0AAva3AA8oQAA9eYAAbbp0AAbfvDAAbhcXAAbhu5AAz8XAA7oLAAbapIAA+wLAA+zAAA-eSAA8wAAA8eZAAbc6YAAtw",
  "AAAbazWAAur0AAuqHAAxvGAAywTAA-gWAAw8FAA7i4AAzvUAAbdz1AAbccMAAbfsNAAbcmLAAxwTAAukAAAvoACAwc0BA",
  "ztUCAuo4AA8zKAA9wKAA+j2AA+k4AA+lFAA+mPAAbf6WAA-f4AA-93BAbbqSBAbcxYCAbebYAAbeh3DAbghPAAbgh2AAb",
  "gjIAAbhnUAAbeg4AAbfvXAAt9OAAuhHAAukNAAuwJAAuxEAAu6RAAvm3AAvqGAAvtIAAwcAAAwfIAAxdEAAxdOAAyeUAA",
  "ylIAAymOAAypSAAzkPAAzpCAAzuRAA6eFAA7lXAA7q0AA7zCAA8lOAA8rLAA9bCAA+eRAA+j4AA+kJAA+kIAA+kQAA+kW",
  "AA+k3AB+mNAA+sAAA+uBAA++AAA-pUAA-qJAA-sBAA-7SAAbaaFAAbapNAAbatZAAbatZAAbbcXAAbciQAAbcmWAAbcyB",
  "AAbczZAAbdgTAAbdiIAAbd9WAAbebYAAbfxDAAbf-5AAbgb1AAydVAAeqxOAAbaqYCAtrGAAunVAAulIAAt8AAAukFAAu",
  "mAAAuwHAAux0AAvm3AAvkVAAvmZAAvpCAAwc0AAwfTAAwkEAAwkUAAwtCAAwzIAAxwSAAxwZAAx7JAAx9NAAygYAAykOA",
  "AyiIAAymOAAylAAAypSAAyrUAAy+EAAza2AAzcSAAzkWAAztUAAzyXAAzy1AAz6WAA67ZAA690AA7kBAA7w1AA7wLAA7z",
  "CAA8a4AA8lOAA99HAA8rVAA8vPAA8zKAA9dRAA9iGAA9j1AA9q3AA9q5AA9wKAA9w1AA9xUAA96KAA96AAA+gMAA+vRAA",
  "++AAA-d1AA-k1AA-pUAA-z4AAbaaFAAba6SAAba-PAAbb7ZAAbckBAAbcmGAAbcmWAAbcv5AAbcxYAAbcwLAAbcyBAAbc",
  "x4AAbcxNAAbczZAAbc8KAAbdiIAAbdzYAAbedSAAbemZAAbetWAAbft2AAbfxDAAbf6WAAbf+1AAbf-5AAbgaLAAbgb1A",
  "AbgySAAbh82AAekcKAAekcEAAem+VAAo83AAqaYAAqbZAAeusJAAexgQAAe-wTAAbh6DAAbh8OcGAbpCAAboQABboTACb",
  "o1AAbpIAAbpKAAbLbGAbtRAAbtRAAbt1AAbt1AAbt1AAbt1AAbt4AAbt4AAbt4AAbt4AAbuAAAbuAAAbuAAAbuAAAbt0A",
  "Abt0AAbt0AAbt0AAbt5AAbt5AAbt5AAbt5AAbtZAAbtZAAbtZAAbtZAAbvEAAbvEAAbvEAAbvEAAbvGAAbvGAAbvGAAbv",
  "GAAbuEAAbuEAAbuEAAbuEAAbuDAAbuDAAbuDAAbuDAAbuGAAbuGAAbuGABbuGAAbuHAAbuHAAbuHAAbuNAAbuNAAbuMAA",
  "buMAAbuOAAbuOAAbuIAAbuIAAbuYAAbuYAAbuRAAbuRAAbvJAAbvJAAbvJAAbvJAAbvPAAbvPAAbvPAAbvPAAbvTAAbvT",
  "AAbvTAAbvTAAbvRAAbvRAAbvRAAbvRAAbv0ABbv0AAbv1AAbv1AAbv1AAbwAABbwAAAbwBAAbwBAAbwBAAbv4AAbv4AAb",
  "v4AAbv4AAbwSABbwSAAbwTbBAbvNAAbvNAAbvNAAbvNAAbwHAAbwHAAbwGAAbwGAAbwIAAbwIBAbwLAAbwLAAbwFAAbwF",
  "AAbwJAAbwJAAbwQAAbwQAAbwQAAbwQAAbsJAAbsJSAbwMAAbwMAAbwMAAbwMqQAbMAAmaBBBb0AAbBAAb5ABmaWYAiaUA",
  "AiaTAAc5AAc5ABbIAAd1AAd3ABmaUABmaQABmaKABmaIADmaMCAc1AAc3EAc5AAc5AAc5AAbMAAmaBCAb1AAb0AAb5AAb",
  "BAAiaUABbIAAd1AAd3ABmaUAAbDAAbGABbKAAbNAAb2AAb4AAb3BAc2ABbEAAcAUBbrBABbrCABbrDABbrEABbrFAAbrG",
  "AAbrGABbrGABbrHAAbrIAAbrIABbrIABbrJAAbrKAAbrKABbrKAAbrLAAbrLABbrLAAbrMAAbrMABbrMAAbrNAAbrNABb",
  "rNAAbrOAAbrOABbrOABbrPABbrQABbrRABbrSAAbrTAAbrTABbrTAAbrUAAbrUABbrUAAbrVAAbrVABbrVAAbrWAAbrWA",
  "BbrWAAbrXAAbrXABbrXAAbrYAAbrYABbrYAAbrZAAbrZABbrZAAbr0AAbr0AAbr0AAbsBAAbsBAAbsBABbsBAAbsCAAbs",
  "CABbsCAAbsDAAbsDABbsDAAbsEAAbsEABbsEAAbsFAAbsFABbsFAAbsGAAbsGABbsGAAbsHAAbsHABbsHABbsIABbsJAA",
  "bsKAAbsKAAbsKM5bBAZdBAbDc1ABkmFAAbOABmaMAAmaBAAmh1AAmhSAAmfBAAmfDAAmfFAAmfHAAmfJAAmhDAAmhFAAm",
  "hHAAmgDAAmh2AAmfCAAmfEAAmfGAAmfIABmfKAAmfNAAmfPAAmfRAAmfTAAmfVAAmfXAAmfZAAmf1AAmf3AAmf5AAmgBA",
  "AmgEAAmgGAAmgIAFmgKAAmgSAAmgVAAmgYAAmg1AEmg4AAmhEAAmhGAFmhIAAmhPAAmhTABmeZBBeiAAAenKAAeiCABen",
  "MACeiDAFenQAAei0ACeiGAAejBAJeiJDFelBCFelHCFelNCCelTDBfCAAfMBAfGAAfFAAifJBAjiCADimQAAjnAAAjoLb",
  "8SBwQAAhGAAuZAAsTBAvDAAbk7GAAvFAAvEABsWAAhmRAAsYAAs4AAvJAAtEAAtCAAtAAAu1AAjHAAu2AAtHAAuEABvKA",
  "AtMAAdxyEAAbj8OAAtOAAdxyFAAuOAAdxyGAAhYABtWAAdRAAt0AAdxyIABt3AAuAAAvIAAvGAAbk7HAAvHAAuIAAldRB",
  "AuPABvBAAuYACoAAAdxyKAAdxy4bri1ZdBAJbQbyGZdBAZdBAZdBAGdBBRdJAZdBAZdBAAdBBBdDCAdHCBdKCDdOBHdTA",
  "DdBBAdGBGdIBKdQAZdBAZdBABdBBDdECHdKBGdTBZdBABdBBDdEBEdJBAdPDGdTBZdBAZdBAZdBAZdBAZdBAZdBAZdBAZ",
  "dBAZdBAZdBAZdBAZdBAZdBAAjRAArXCQ9RAA9YAG+DAAiqHAQ9RAA+DAG+DAAiqCAA9VAA9YAA90AA+GAA+BAA+AAQ9RA",
  "A9YAG+DAAiqHAQ9RAA+DAG+DAAiqCAA9VAA9YAA90AA+GAA+BAA+AAQ9RAA9YAG+DAAiqHAQ9RAA+DAG+DAAiqCAA9VAA",
  "9YAA90AA+GAA+BAA+AAQ9RAA9YAG+DAAiqHAQ9RAA+DAG+DAAiqCAA9VAA9YAA90AA+GAA+BAA+AAQ9RAA9YAG+DAAiqH",
  "AQ9RAA+DAG+DAAiqCAA9VAA9YAA90AA+GAA+BAA+AAA+3AA+3CJbQAJbQAJbQAJbQAJbQcbQIbbQACbb0AKbb4AAbcLAB",
  "bcNAAbjuJAAbgZAAbcWAAbcYAAbhJAAbfPAAbgPAIbbQABbb0ABbb4AAbcBAFbcDABbcKAAbeRAAbcWAAbcVAAbc5AAbf",
  "LAAbjsRAAbfRdmSBbrHAAbrMAAbrPBAbsIAAbrSAAbrNAAbrXAAbsKADbsDAAbrTAAbrZAAbsBAAbrVAAbsCAAbrRAAbr",
  "UABbrKAAbrOAAbrQAAbrWAAbrYAAbr0AAbtOAAbv0AAbvBAAbtPBAbrIAAbrMBAbsHCAbrNBAbsKADbsDAAbrTAAbrZAA",
  "bsBAAbrVAAbsCBAbrUABbrKAAbrOBAbrWBAbr0GAbrMEAbrNBAbsKBAbsEBAbsGAAbrTAAbrZBAbrVAAbsCBAbrUCAbrO",
  "BAbrWBAbr0BAbv0BAbtPBAbrIAAbrMBAbsHCAbrNAAbrXAAbsKAAbsDBBbsFAAbrTAAbrZAAbsBAAbrVAAbsCBAbrUABb",
  "rKAAbrOBAbrWAAbrYAAbr0AAbtOBAbvBBBbrHAAbrMAAbrPABbsHAAbrSAAbrNAAbrXAAbsKBCbsEAAbrTAAbrZAAbsBA",
  "AbrVAAbsCAAbrRAAbrUABbrKAAbrOAAbrQAAbrWAAbrYAAbr0FAbrIAAbrMAAbrPBAbsIAAbrSAAbrNAAbrXAAbsKBCbs",
  "EAAbrTAAbrZAAbsBAAbrVAAbsCAAbrRAAbrUABbrKAAbrOAAbrQAAbrWAAbrYAAbr0tPAdDAAdSDZdBfYAmfVNAysLAAw",
  "6XAAu+MAAmgHAAtuMAAwi0AAbcpDAAwjJAAtvEAAzrAAA8jBAAzmZAAusNAAx8MAAumNAAznQAAuq3AA-kCAA9i5AAbdf",
  "JAAwhQAAvbZAA7yUAAyuVAAy6VAAtqAAAtqJAAbecKAAxpGAAtrNAAu-TAAyyHAAbdlQAAysTAA+mBAA+t0AAvaIAA7uA",
  "AAzyJAAzyIAA9jTAAutSAAvnWAAbekNUAx8XAAu-Pcm4JbQb-aGAtr3AAtrYAAtsBAAeajCAAt7AAAt9OAAt91AAuaCAA",
  "ud0AAueZAAuhHAAugPAAne4AAebr0AAukNAAukUAAulEAAulXAAebi2AAnfZAAulHAAumNAAebkLAAumXAAunEAAtwMAA",
  "unMAAunVAAfeo5AAupVAAuqDAAng5AAur1AAusGAAutSAAutXAAniVAAuwHAAuwJAAuxEAAux0ABuyFAAuyXAAu6JAAu6",
  "RAAu60AAu7TAAu73AAu75AAu75AAu75AAecrMAA8dQAAu+KAAu+5AAec7DAAu-LAAu-RAAvaGAAve4AAvbYAAvcIAAvdI",
  "AAvfCAAvhWAAviQAAvkTAAvlDAAvmEAAvmEAAvmZAAvnLAAvnTAAvoCAAvyWAAvqGAAvyXAAvsRAAvtUAAuqHAAwhOAAv",
  "+OAAv-UAAwaNAAv8LAAwbSAAwbRAAwfMAAefhEAAwhSAAwhXAAwiGAAwi0AAwjCAAwlCAAefvIAAefxKAAwpMAAwq1AAw",
  "rHAAwoYAAwtGAAnxOAAnx2AAwyIAAwz4AAwz4AAegoIAAw+DAAw+YAAw-HAAw-TAAegyYAAw-5AAxaGAAx6TAAxbCAAn8",
  "BAAxdAAAxdOAAxgAAAxeNAAehpEAAxkDAAehpGAAxlOAAxlLAAxl2ABxpBAAobPAAxp3AAxrIAAxr3AAxtJAAodCAAeim",
  "DAAod2AAxvQAAxvTAAxvWAAxwKAAfi8SAAxx4AAeizRAAeizRAAbaqBAAxzCAAxzCAAogHAAemvYAAeyo0AAx7CAAx7LA",
  "AohDAAx80AAx+NAAx+XAAx-ZAAyeBAAoj0AAoi2AAyeUAAejwUAAygHAAykIAAykMAAykOAAykMAAyl0AAymOAAynSAAy",
  "nEAAynPAAyo4AAypSAAypWAAyqQAAyq1AAys3AAyvRAAywUAAy6QAAekyMAAyz3AAyx2AAy7IAAy8DAAy-EAAek-RAAzb",
  "CAAy+FAAy9JAAorOAAzdJAAzd4AAze3AAzdXAAotMAAzkPAAzlMAAemaKAAzpDAAzxYAAzsJAAoyZAAzuRAAoyIAAoxEA",
  "AumSAAumVAAzyAAAzu2AAbafNAAq+ZAAzyXAAzy1AAzzBAAz64AAz6TAAem+DAAo6JAAz-0AAz8FAA6cSAA6eFAAendNA",
  "A6eOAA6a5AA6iUAAo83AA6kCAA6nDAA6pKAA6vIAAenvDAA6w1AApaYAA6zBAAeofHAA66UAApcOAA67SAA685AB690AA",
  "eouNAAehiLAAeox0AA7cOAAepf2AA7f5AA7gNAA7dHAA7iWAA7j4AA7lXAA7kBAA7lJAA7lYAA7mFAAepi4AA7jUAA7rP",
  "AA7tOAApjTAA7wLAA7wHAAepwRAA7pZAA77OAAep64AAep8OAA7+GAA8bZAA8a4AA8a1AApmWAA8cKAA8d3AA8dXAA8fN",
  "AAebjFAA8kFAAeqtDAA8m2AAeq9LAA8rIAA8rVAA8sQAAerqIAA8uAAA8uVAAerzVAAesaUAA870AA88LAApvMAA89FAA",
  "pvYAApvYAA9cHAA9c2AA9dRAA9eFAA9gKAApy1AA9jEAAetbWAA9j4AAeteSAA9lQAAeim5AA9qQAAet9BAAet9YAAeuc",
  "EAAp-2AAqaIAA9xUAAeuhTAAeuhSAAeuiZAAeujTAB9y4AA9y5AA96KAAqbZAA98LAAqcGAAqeWAAeva3AA+cOAA+eMAA",
  "+gMAAqhDAAevrGAA+kWAAevu0AAevwFAA+mPAA+pLAAqjPAA+sAAA+sKAA+sPAAewl2AAewvHAAewvHAA+xOAAqqCAAew",
  "9LAA++GAA++JAAqrHAAexeAAA-gSAAqvAAA-hIAA-hDAA-iAAAex8GAA-lDAAqyBAA-oHAA-qCAA-sFAAqzUAAeyrIAAe",
  "ysHAAq6ZAAeywZAA-70AAeyz4AA-8VAA--0AAbaaFAAezg0AAezjDAAbadAAAeznIAAbadQAAem65AAq+VAAbafSAAbai",
  "DAAraLAAbaj4AAwvVAAez9HAAez9VAAem8TAAem82AAbaqBAAbaqEAAbd84AArdLAAbauRAAbauLAAbau3AAuvTAAbavR",
  "AAbavTAAbav3AAbaxGAAe6z2AAbaxFAAbay3AAba7DAAba9NAAbazDAAba93AAba-HAAbbcXAAba6TAAba+KAAba+MAAb",
  "a+2AAe7bWAAe7lLAAe7gVAArjLAAbbhRAAbbhTAAbbiWAAe8+KAAbblEAAe7zMAArk3AArlBAAe79RAAe8gSAArlLAAbb",
  "sQAAbbs2AAbbtHAAbbtJAAbbvJAAbbuIAAbbyOAAbbxCAAbb7ZAAbbzIAAbb7LAAbb8GAAroXAAbb-BAAbcaBAArpZAAb",
  "cdAAAbcdDAAe9tHAAbcgXAAbcg4AArrVAAbch0AAnf1AAe+fOAAe+lGAArv4AArwHAAbcvAAAbcxNAAbc8KAAbdcVAAe-",
  "fIAAbdfLAAbdgBAAbdi1AAbdlXAAe-zPAAecaEAAbdoLAAbdn2AAbdpQAAecg4AAbdwUAAbdzYAAfboSAAfbpNAAbeeUA",
  "AbehRAAbeiRAAfbzOAAbei1AAberYABbewXAAbet2AAbe-ZAAbfaVAAfc-0AAbfmLAAsmVAAbfnXAAfdlXAAspGAAbfwD",
  "AAxnSAAbfzDAAfekFAAfeq0AAstOAAstWAAbf-AAAffaKAAsvSAAffeWAAbgaLAAbgaLAAbgbJAAffnWAAbghCAAszTAA",
  "bgjJAAbgnHAAbgoCAAbgp4AAs+OAAfgzQAAbgySAAbhcAAAbhh3AAtgOAAthNAAbhlHAAfigOAAthYAAfiiFAAfiqOAAf",
  "iuRAAbhv1AAtkWAAbhxZAAbhx4AAbhyFAAbhyPAAbhyWAAbhz1AAfjqA"]

/-- Characters that become several: the gap before each one, how many it becomes, and
those, in turn. -/
def phraseTable : List String := [
  "fICbAyIGCbAyEECbAyBDCbAzHDDbRicEbUADbRicEbSADbTicEbUdRCdJyHBCdJdKACdJdKLCdMfXACdMfXICv2dOd0Cd",
  "El4ACdEl4ACdEl4ACdMdKACdMdKACdMdKACdOdKACdOdKACdOdKbECdEd0ACdEd0ACdEd0hECbAyGACbAyHACbAyKACbA",
  "zIACbAyDACbAyLdGCyIyBbVCbA9ZJCbAyBADbAyIyBqBCblFbmChNCbrHbtUACbsIbtUACbwHbtUACbsKbtUw5CciVcj2",
  "ACciWcj2ACciXcj2ACci2cj2ACcjBcj2ACcjCcj2ACcjLcj2ACcjPcj2d2CcnBcn2ACcnCcn2BCcnPcn2cTCcrScr2CCc",
  "rYcr2bCCcqWcr2ACcqXcr2ACcq2cr2CCcrLcr2h3CczBcz2ACczCcz2wVCdsNdrSd5CdwNdvSbICdvLduZACdvLdvBdFC",
  "d6Cd9XJCd6Md9XECd6Rd9XECd6Wd9XECd61d9XMCd6Ad9VJCd7Rd7SBCd7Rd7UACd9Sd8AADd9Sd7Rd8AACd9Td8AADd9",
  "Td7Rd8AHCd7Rd8ARCd8Sd9XJCd82d9XECd9Bd9XECd9Gd9XECd9Ld9XMCd8Qd9VdxACdBv4hFChyA9ZAChyB9ZAChyC9Z",
  "AChyD9ZAChyE9ZAChyF9ZAChyG9ZAChyH9ZAChyA9ZAChyB9ZAChyC9ZAChyD9ZAChyE9ZAChyF9ZAChyG9ZAChyH9ZAC",
  "hzA9ZAChzB9ZAChzC9ZAChzD9ZAChzE9ZAChzF9ZAChzG9ZAChzH9ZAChzA9ZAChzB9ZAChzC9ZAChzD9ZAChzE9ZAChz",
  "F9ZAChzG9ZAChzH9ZACh7A9ZACh7B9ZACh7C9ZACh7D9ZACh7E9ZACh7F9ZACh7G9ZACh7H9ZACh7A9ZACh7B9ZACh7C9",
  "ZACh7D9ZACh7E9ZACh7F9ZACh7G9ZACh7H9ZCCh7Q9ZAC9R9ZAC9M9ZCCh9W9ZEC9R9ZACbAyTBCbAyTACbA6CADbAyI6",
  "CACh7U9ZAC9X9ZAC9O9ZCCh+G9ZEC9X9ZADbAyTyAADbAyTyBADbAyT6CNDbAyUyAADbAyUyBADbAyU6CNDbAyIyAADbA",
  "yIyBDCh729ZAC+J9ZAC+O9ZCCh-W9ZEC+J9ZACbAyBACbAyUYCbAzT1CibSibSADibSibSibSBCibVibVADibVibVibVE",
  "CbBbBBCbAyFICb5b5ACb5bBACbBb5NEibSibSibSibScQCdSdTcXDdBbPdDADdBbPdTBCfQdDBDdDbPdPADdDbPdVCCfQ",
  "dGMCdOdPJCdTdNADdUdFdMACdUdNYDdGdBdYUDbRicEbXADbRicEbZAEbRicEbRbQADbRicEbTADbSicEbTADbRicEbVA",
  "DbSicEbVADbTicEbVADbUicEbVADbRicEbWADbVicEbWADbRicEbYADbTicEbYADbVicEbYADbXicEbYACbRicEBCdJdJ",
  "ADdJdJdJACdJdWBCdWdJADdWdJdJAEdWdJdJdJACdJdYBCdYdJADdYdJdJFCdJdJADdJdJdJACdJdWBCdWdJADdWdJdJA",
  "EdWdJdJdJACdJdYBCdYdJADdYdJdJNDbQicEbTfCCirLirLADirLirLirLBCirOirOADirOirOirOrYCbRbQACbRbRACb",
  "RbSACbRbTACbRbUACbRbVACbRbWACbRbXACbRbYACbRbZACbSbQADbIbRbJADbIbSbJADbIbTbJADbIbUbJADbIbVbJAD",
  "bIbWbJADbIbXbJADbIbYbJADbIbZbJAEbIbRbQbJAEbIbRbRbJAEbIbRbSbJAEbIbRbTbJAEbIbRbUbJAEbIbRbVbJAEb",
  "IbRbWbJAEbIbRbXbJAEbIbRbYbJAEbIbRbZbJAEbIbSbQbJUDbIdBbJADbIdCbJADbIdDbJADbIdEbJADbIdFbJADbIdG",
  "bJADbIdHbJADbIdIbJADbIdJbJADbIdKbJADbIdLbJADbIdMbJADbIdNbJADbIdObJADbIdPbJADbIdQbJADbIdRbJADb",
  "IdSbJADbIdTbJADbIdUbJADbIdVbJADbIdWbJADbIdXbJADbIdYbJADbIdZbJADbId0bJbkWEirLirLirLirLdHDb0b0b",
  "3ACb3b3ADb3b3b3dFCkw3zYbn4CbAmeZACbAme0CCmeImeKc5CmfTmgIiADbIeiAbJADbIeiCbJADbIeiDbJADbIeiFbJ",
  "ADbIeiGbJADbIeiHbJADbIeiJbJADbIeiLbJADbIeiMbJADbIeiObJADbIeiPbJADbIeiQbJADbIeiRbJADbIeiSbJADb",
  "IblaAbJADbIbmeYbJADbIbmxEbJADbIbn72bJADbIbooIbJADbIbpaUbJADbIbqfMbJADbIbrkEbJADbIbr8QbJADbIbt",
  "bIbJADbIbttUbJADbIbugAbJADbIbuyMbJADbIbvkYbJADbIbsh2bJAEbIbrrEbsaEbJAEbIbrrEbvwEbJBDbItqAbJAD",
  "bItuMbJADbItqJbJADbIvw1bJADbItuUbJADbIulNbJADbItqDbJADbIulLbJADbIts3bJADbIu6BbJADbIzyIbJADbI8",
  "dLbJADbI7bUbJADbIzzIbJADbIbeoRbJADbIvy5bJADbIzpFbJADbI6bKbJADbIzyJbJADbI+j4bJADbIvaNbJADbI8tZ",
  "bJADbIbdfBbJADbI+k3bJADbIuvUbJADbItxDbJADbIvd2bJADbIw7GbJADbI9xDbJADbItyBbJADbIbdgHbJADbIu6Ub",
  "JADbI+lNbJADbItyRbJADbIbapKbJADbIbapTbJMDdQdUdFACbSbRACbSbSACbSbTACbSbUACbSbVACbSbWACbSbXACbS",
  "bYACbSbZACbTbQACbTbRACbTbSACbTbTACbTbUACbTbV2CbtbYblhAACbsh2br6YbTCbTbWACbTbXACbTbYACbTbZACbU",
  "bQACbUbRACbUbSACbUbTACbUbUACbUbVACbUbWACbUbXACbUbYACbUbZACbVbQACbRzyIACbSzyIACbTzyIACbUzyIACb",
  "VzyIACbWzyIACbXzyIACbYzyIACbZzyIADbRbQzyIADbRbRzyIADbRbSzyIACdIdHADdFdSdHACdFdWADdMdUdEbPCtxE",
  "veMAEmfCmgRmh2mgIAEmfCmhLmgVmfBAEmfCmhTmg0mfCADmfCmh2mhLAEmfEmgLmhTmfQADmfEmhTmgBADmfGmfJmhTA",
  "FmfImfZmfPmh2mgJAEmfImh2mfLmh2ADmfKmhTmfZADmfKmh2mhAADmfLmfEmhKAEmfLmhJmgDmgIAEmfLmhNmhKmh2AD",
  "mfMmhNmhTADmfMmhTmg4ACmfOmfMADmfOmgLmh2AEmfNmhFmhKmh2AEmfOmhLmgAmh2ACmfNmhNAFmfNmhNmfQmhJmhAA",
  "GmfNmhNmhBmh2mgImhLAFmfNmhNmhPmgDmgIADmfQmhJmhAAFmfQmhJmhAmgImhTAFmfPmhLmf2mfEmhNAEmfPmhNmh2m",
  "gNADmfRmh2mfZADmfTmhLmgKADmfTmh2mg3AEmfVmfEmfPmhLAFmfVmhTmgBmh2mhAAEmfXmhKmhTmfQADmf1mhTmgBAD",
  "mf1mhTmgIADmgAmh2mfZACmgHmfXACmgJmhLACmgImhTACmgKmgOADmgOmgDmgIADmgPmfEmgEAFmgRmh2mf1mhTmgIAD",
  "mgRmh2mgEAEmgQmh2mhMmhLAFmgUmfCmfZmgImhLADmgUmfPmhLACmgUmfTACmgTmhLAFmgVmfBmhJmgDmgJAEmgVmfDm",
  "h2mgIAFmgWmgDmfXmfHmhLADmgVmhJmhTAFmgYmfPmf5mh2mhLACmg0mf3ADmg0mgLmgSADmgYmhLmgEADmg0mhTmfZAD",
  "mg0mh2mfYADmgZmh2mf5AEmg3mfEmhTmgIADmg2mhLmgIACmg1mhTADmg3mhTmgJADmg1mh2mhLADmg1mh2mhTAEmg4mf",
  "EmfPmhNADmg4mfEmhLADmg4mgDmgPADmg4mhLmfPAFmg4mhTmfXmhHmhTAEmg5mfPmhNmhTACmg5mhKAFmg5mhKmgQmh2",
  "mhLACmhBmfMAEmhBmfMmgImhTAEmhBmh2mgImhLADmhEmh2mgJADmhEmh2mhLADmhGmfCmhTAEmhKmgDmgImhLACmhKmh",
  "JADmhLmgUmh2AEmhLmh2mgWmhLACmhMmhAAFmhMmhTmgImfSmhTADmhPmgDmgIACbQ8fZACbR8fZACbS8fZACbT8fZACb",
  "U8fZACbV8fZACbW8fZACbX8fZACbY8fZACbZ8fZADbRbQ8fZADbRbR8fZADbRbS8fZADbRbT8fZADbRbU8fZADbRbV8fZ",
  "ADbRbW8fZADbRbX8fZADbRbY8fZADbRbZ8fZADbSbQ8fZADbSbR8fZADbSbS8fZADbSbT8fZADbSbU8fZADdIdQdBACdE",
  "dBACdBdVADdCdBdSACdPdWACdQdDACdEdNADdEdNbSADdEdNbTACdJdVACxtTyqQACzrNveMACwjH67DACzqO7f1AE6bK",
  "xyPty0+j4ACdQdBACdOdBAC92dBACdNdBACdLdBACdLdCACdNdCACdHdCADdDdBdMAEdLdDdBdMACdQdGACdOdGAC92dG",
  "AC92dHACdNdHACdLdHACdId0ADdLdId0ADdNdId0ADdHdId0ADdUdId0AC92dMACdNdMACdEdMACdLdMACdGdNACdOdNA",
  "C92dNACdNdNACdDdNACdLdNADdNdNbSADdDdNbSACdNbSADdLdNbSADdNdNbTADdDdNbTACdNbTADdLdNbTADdNiqVdTA",
  "EdNiqVdTbSACdQdBADdLdQdBADdNdQdBADdHdQdBADdSdBdEAFdSdBdEiqVdTAGdSdBdEiqVdTbSACdQdTACdOdTAC92d",
  "TACdNdTACdQdWACdOdWAC92dWACdNdWACdLdWACdNdWACdQdXACdOdXAC92dXACdNdXACdLdXACdNdXACdL+JACdN+JBC",
  "dCdRACdDdDACdDdEAEdDiqVdLdHBCdEdCACdHdZACdIdBACdIdQACdJdOACdLdLACdLdNACdLdUACdMdNACdMdOADdMdP",
  "dHACdMdYACdNdCADdNdJdMADdNdPdMACdQdIBDdQdQdNACdQdSACdTdSACdTdWACdXdCADdWiqVdNADdBiqVdNACbRzpF",
  "ACbSzpFACbTzpFACbUzpFACbVzpFACbWzpFACbXzpFACbYzpFACbZzpFADbRbQzpFADbRbRzpFADbRbSzpFADbRbTzpFA",
  "DbRbUzpFADbRbVzpFADbRbWzpFADbRbXzpFADbRbYzpFADbRbZzpFADbSbQzpFADbSbRzpFADbSbSzpFADbSbTzpFADbS",
  "bUzpFADbSbVzpFADbSbWzpFADbSbXzpFADbSbYzpFADbSbZzpFADbTbQzpFADbTbRzpFADdHdBdMbryACdGdGACdGdJAC",
  "dGdMADdGdGdJADdGdGdMACdTdUACdTdUMCblUblWACblUblFACblUblLACbl4blWACblUblNFCboZbnUBCbpSbnXKCbpJ",
  "boBACbpJboCADbpJbn2boBADbpJbn2boCACboQbnXACboQbnYACboQbn2ACboRbn2ACboSbn2ACboTbn2ACboUbn2ACbo",
  "Vbn2ACboWbn2BCboYbn2ACboZbn2ACbo0bn2ACbo1bn2ACbo2bn2BCbo4bn2BCbpAbn2ACbpBbn2BCbpDbn2ACbpEbn2B",
  "CbpGbn2ACbpHbn2ACbpIbn2ACbpJbn2ACbpKbn2ACboVbnZACboRbn5ACbo1bn5ACbpEbn5ACboQbo2eNCbwHbtUMCbrG",
  "brHACbrGbrHACbrGbwVACbrGbwVACbrGbsIACbrGbsIACbrGbwHACbrGbwHACbrGbwGACbrGbwGACbrGbwIACbrGbwIAC",
  "brGbwQACbrGbwQACbrGbwQACbrGbsJACbrGbsJACbrGbsJECbrGbrMACbrGbrNACbrGbsFACbrGbsJACbrGbsKACbrIbr",
  "MACbrIbrNACbrIbrOACbrIbsFACbrIbsJACbrIbsKACbrKbrMACbrKbrNACbrKbrOACbrKbsFACbrKbsJACbrKbsKACbr",
  "LbrMACbrLbsFACbrLbsJACbrLbsKACbrMbrNACbrMbsFACbrNbrMACbrNbsFACbrObrMACbrObrNACbrObsFACbrTbrMA",
  "CbrTbrNACbrTbrOACbrTbsFACbrVbrNACbrVbsFACbrWbrMACbrWbrNACbrWbrOACbrWbsFACbrXbrNACbrXbsFACbrYb",
  "sFACbrZbrMACbrZbsFACbr0brMACbr0bsFACbsBbrMACbsBbrNACbsBbrOACbsBbsFACbsBbsJACbsBbsKACbsCbrNACb",
  "sCbsFACbsCbsJACbsCbsKACbsDbrHACbsDbrMACbsDbrNACbsDbrOACbsDbsEACbsDbsFACbsDbsJACbsDbsKACbsEbrM",
  "ACbsEbrNACbsEbrOACbsEbsFACbsEbsJACbsEbsKACbsFbrMACbsFbrNACbsFbrOACbsFbsFACbsFbsJACbsFbsKACbsG",
  "brMACbsGbrNACbsGbrOACbsGbsFACbsGbsJACbsGbsKACbsHbrMACbsHbsFACbsHbsJACbsHbsKACbsKbrMACbsKbrNAC",
  "bsKbrOACbsKbsFACbsKbsJACbsKbsKACbrQbtQACbrRbtQACbsJbtQADbAbsMbsRADbAbsNbsRADbAbsObsRADbAbsPbs",
  "RADbAbsQbsRADbAbsRbtQACbrGbrRACbrGbrSACbrGbsFACbrGbsGACbrGbsJACbrGbsKACbrIbrRACbrIbrSACbrIbsF",
  "ACbrIbsGACbrIbsJACbrIbsKACbrKbrRACbrKbrSACbrKbsFACbrKbsGACbrKbsJACbrKbsKACbrLbrRACbrLbrSACbrL",
  "bsFACbrLbsGACbrLbsJACbrLbsKACbsBbsJACbsBbsKACbsCbsJACbsCbsKACbsDbrHACbsDbsEACbsDbsFACbsDbsJAC",
  "bsDbsKACbsEbsFACbsEbsJACbsEbsKACbsFbrHACbsFbsFACbsGbrRACbsGbrSACbsGbsFACbsGbsGACbsGbsJACbsGbs",
  "KACbsJbtQACbsKbrRACbsKbrSACbsKbsFACbsKbsGACbsKbsJACbsKbsKACbrGbrMACbrGbrNACbrGbrOACbrGbsFACbr",
  "GbsHACbrIbrMACbrIbrNACbrIbrOACbrIbsFACbrIbsHACbrKbrMACbrKbrNACbrKbrOACbrKbsFACbrKbsHACbrLbsFA",
  "CbrMbrNACbrMbsFACbrNbrMACbrNbsFACbrObrMACbrObsFACbrTbrMACbrTbrNACbrTbrOACbrTbsFACbrVbrNACbrVb",
  "rOACbrVbsFACbrWbrMACbrWbrNACbrWbrOACbrWbsFACbrXbrNACbrYbsFACbrZbrMACbrZbsFACbr0brMACbr0bsFACb",
  "sBbrMACbsBbrNACbsBbrOACbsBbsFACbsCbrNACbsCbsFACbsDbrMACbsDbrNACbsDbrOACbsDbsEACbsDbsFACbsEbrM",
  "ACbsEbrNACbsEbrOACbsEbsFACbsEbsHACbsFbrMACbsFbrNACbsFbrOACbsFbsFACbsGbrMACbsGbrNACbsGbrOACbsG",
  "bsFACbsGbsHACbsHbrMACbsHbsFACbsHbtQACbsKbrMACbsKbrNACbsKbrOACbsKbsFACbsKbsHACbrGbsFACbrGbsHAC",
  "brIbsFACbrIbsHACbrKbsFACbrKbsHACbrLbsFACbrLbsHACbrTbsFACbrTbsHACbrUbsFACbrUbsHACbsDbsEACbsDbs",
  "FACbsEbsFACbsGbsFACbsGbsHACbsKbsFACbsKbsHADbsAbsObsRADbsAbsPbsRADbsAbsQbsRACbrXbsJACbrXbsKACb",
  "rZbsJACbrZbsKACbr0bsJACbr0bsKACbrTbsJACbrTbsKACbrUbsJACbrUbsKACbrNbsJACbrNbsKACbrMbsJACbrMbsK",
  "ACbrObsJACbrObsKACbrVbsJACbrVbsKACbrWbsJACbrWbsKACbrUbrMACbrUbrNACbrUbrOACbrUbsFACbrUbrRACbrT",
  "brRACbrVbrRACbrWbrRACbrXbsJACbrXbsKACbrZbsJACbrZbsKACbr0bsJACbr0bsKACbrTbsJACbrTbsKACbrUbsJAC",
  "brUbsKACbrNbsJACbrNbsKACbrMbsJACbrMbsKACbrObsJACbrObsKACbrVbsJACbrVbsKACbrWbsJACbrWbsKACbrUbr",
  "MACbrUbrNACbrUbrOACbrUbsFACbrUbrRACbrTbrRACbrVbrRACbrWbrRACbrUbrMACbrUbrNACbrUbrOACbrUbsFACbr",
  "TbsHACbrUbsHACbrXbsFACbrTbrMACbrTbrNACbrTbrOACbrUbrMACbrUbrNACbrUbrOACbrXbsFACbrYbsFACbrHbsLA",
  "CbrHbsLSDbrKbrMbsFADbrKbrNbrMADbrKbrNbrMADbrKbrNbsFADbrKbrObsFADbrKbsFbrMADbrKbsFbrNADbrKbsFb",
  "rOADbrMbsFbrNADbrMbsFbrNADbrNbsFbsKADbrNbsFbsJADbrTbrNbrMADbrTbrMbrNADbrTbrMbsJADbrTbsFbrNADb",
  "rTbsFbrNADbrTbsFbrMADbrTbsFbsFADbrTbsFbsFADbrVbrNbrNADbrVbrNbrNADbrVbsFbsFADbrUbrNbsFADbrUbrN",
  "bsFADbrUbrMbsKADbrUbsFbrOADbrUbsFbrOADbrUbsFbsFADbrUbsFbsFADbrWbrNbsJADbrWbrObsFADbrWbrObsFAD",
  "brXbsFbrNADbrXbsFbrNADbrXbsFbsFADbrXbsFbsKADbrZbrMbsFADbrZbsFbsFADbrZbsFbsFADbrZbsFbsJADbr0bs",
  "FbsFADbr0bsFbsKADbr0bsFbsJADbsBbrObsFADbsBbrObsFADbsCbsFbrNADbsCbsFbsFADbsEbrNbsFADbsEbrNbsKA",
  "DbsEbrNbsJADbsEbrMbrMADbsEbrMbrMADbsEbrObsFADbsEbrObsFADbsEbsFbrNADbsEbsFbrNADbsFbrNbrMADbsFb",
  "rNbsFADbsFbrNbsKADbsFbrMbrNADbsFbrMbsFADbsFbrObrMADbsFbrObsFCDbsFbrMbrOADbsHbsFbrMADbsHbsFbsF",
  "ADbsGbrNbsFADbsGbrNbsJADbsGbrMbsFADbsGbrMbsFADbsGbrMbsJADbsGbsFbsKADbsGbsFbsJADbsKbsFbsFADbsK",
  "bsFbsFADbrIbrObsKADbrKbrMbsKADbrKbrMbsJADbrKbrObsKADbrKbrObsJADbrKbsFbsKADbrKbsFbsJADbrMbsFbs",
  "KADbrMbrNbsJADbrMbsFbsJADbrTbrObsJADbrVbrNbsKADbrUbrNbsKADbrWbrNbsKADbsEbrMbsKADbsEbsFbsKADbs",
  "KbrNbsKADbsKbrMbsKADbsKbsFbsKADbsFbsFbsKADbsCbsFbsKADbsGbrNbsKADbsCbsFbrNADbsEbrNbsFADbrZbsFb",
  "sKADbsDbsFbsKADbsGbrMbrNADbsFbrObsKADbsEbrMbsFADbsDbsFbsFADbsEbrMbsFADbsGbrMbrNADbrMbrNbsKADb",
  "rNbrMbsKADbsFbrMbsKADbsBbsFbsKADbrIbrNbsKADbsDbsFbsFADbrZbrMbsFADbrVbsFbsFADbrTbrObsKADbsGbrM",
  "bsKbIDbrVbsEbwSADbsCbsEbwSAEbrHbsEbsEbsHAEbrHbsDbrIbrRAEbsFbrNbsFbrPAEbrVbsEbrZbsFAEbrRbrTbsI",
  "bsEAEbrZbsEbsKbsHAEbsIbrTbsEbsFADbrVbsEbsJASbrVbsEbsJbAbrHbsEbsEbsHbAbrZbsEbsKbsHbAbsIbrTbsEb",
  "sFAIbrMbsEbAbrMbsEbrHbsEbsHAEbrRbwMbrHbsEcMCbAyFACbAyFACbAyFACbAyFbDCbAbsLACbsAbsLACbAbsMBCbA",
  "bsNBCbAbsOACbsAbsOACbAbsPACbsAbsPACbAbsQACbsAbsQACbAbsRACbsAbsRACbAbsSACbsAbsSdVCbsEbrCACbsEb",
  "rCACbsEbrDACbsEbrDACbsEbrFACbsEbrFACbsEbrHACbsEbrHhGCbAyEbul0CdukXdulFACdukYdulFADdukYdulFdul",
  "OADdukYdulFdulPADdukYdulFdulQADdukYdulFdulRADdukYdulFdulScWCdunZdulFACdun0dulFADdunZdulFdulOA",
  "Ddun0dulFdulOADdunZdulFdulPADdun0dulFdulPh6ACbQbMACbRbMACbSbMACbTbMACbUbMACbVbMACbWbMACbXbMAC",
  "bYbMACbZbMFDbIdBbJADbIdCbJADbIdDbJADbIdEbJADbIdFbJADbIdGbJADbIdHbJADbIdIbJADbIdJbJADbIdKbJADb",
  "IdLbJADbIdMbJADbIdNbJADbIdObJADbIdPbJADbIdQbJADbIdRbJADbIdSbJADbIdTbJADbIdUbJADbIdVbJADbIdWbJ",
  "ADbIdXbJADbIdYbJADbIdZbJADbId0bJADmaUdTmaVCCdDdEACdXd01CdIdWACdNdWACdTdEACdTdTADdQdQdWACdXdD0",
  "CdNdDACdNdEACdNdSbDCdEdKdPCmd1mcLACmfTmfTb4DmaUzzMmaVADmaUtqJmaVADmaUtuMmaVADmaUw8JmaVADmaU8f",
  "ZmaVADmaUysTmaVADmaU9wXmaVADmaUuw3maVADmaUzkXmaV"]

/-- A run of characters and the first one of the run that they become. -/
structure Shift where
  first : Nat
  last : Nat
  target : Nat
deriving Repr

def shiftsFrom (start : Nat) : List Nat → List Shift
  | gap :: more :: target :: rest =>
    ⟨start + gap, start + gap + more, target⟩ :: shiftsFrom (start + gap + more + 1) rest
  | _ => []

def shifts : List Shift := shiftsFrom 0 (CodePoints.numbers runTable)

/-- The rest of the numbers gets shorter with each character. -/
def phrasesFrom : Nat → Nat → List Nat → List (Nat × List Char)
  | budget + 1, start, gap :: count :: rest =>
    (start + gap, (rest.take count).map Char.ofNat)
      :: phrasesFrom budget (start + gap + 1) (rest.drop count)
  | _, _, _ => []

def phrases : List (Nat × List Char) :=
  let numbers := CodePoints.numbers phraseTable
  phrasesFrom numbers.length 0 numbers

def shifted? (n : Nat) : Option (List Char) :=
  (shifts.find? fun shift => shift.first ≤ n && n ≤ shift.last).map fun shift =>
    [Char.ofNat (shift.target + (n - shift.first))]

/-- Small letters for capital ones. The sigma that ends words stays what it is. -/
def folded? (n : Nat) : Option (List Char) :=
  if n = 0x3c2 then none else (CodePoints.foldings.lookup n).map fun other => [Char.ofNat other]

/-- What a character becomes in a name; nothing for a character that no name has. -/
def form? (c : Char) : Option (List Char) :=
  let n := c.toNat
  if n < 0x80 then some [c.toLower]
  else
    match ((shifted? n).orElse fun _ => phrases.lookup n).orElse fun _ => folded? n with
    | some chars => some chars
    | none =>
      if passedOver.has c then some [] else if refused.has c then none else some [c]

end Asn1Constraints.NameForm
