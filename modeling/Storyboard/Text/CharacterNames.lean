/-!
# Names of characters

Every character has a name of one or more words in capital letters, and some have further names.
They are listed in the order of their words.  In front of a name stands the number of words that it
shares with the name before it, as a digit or, from ten on, as a letter; those words are left out.
-/

namespace Storyboard
namespace Text

def namesFromA : List String := [
  "0ABACUS|0AC CURRENT|0ACCORDION|0ACCOUNT OF|0ACK|0ACKNOWLEDGE|0ACTIVATE ARABIC FORM SHAPING",
  "1SYMMETRIC SWAPPING|0ACUTE ACCENT|1ANGLE|0ADDRESSED TO THE SUBJECT|0ADHESIVE BANDAGE",
  "0ADI SHAKTI|0ADLAM ALIF LENGTHENER|1CAPITAL LETTER ALIF|3BA|3BHE|3CHI|3DAALI|3DHA|3E|3FA|3GA",
  "3GBE|3HA|3I|3JIIM|3KAF|3KHA|3KPO|3LAAM|3MIIM|3NHA|3NUN|3NYA|3O|3PE|3QAAF|3RA|3SHA|3SINNYIIYHE",
  "3TU|3U|3VA|3WAW|3YA|3YHE|3ZAL|1CONSONANT MODIFIER|1DIGIT EIGHT|2FIVE|2FOUR|2NINE|2ONE|2SEVEN",
  "2SIX|2THREE|2TWO|2ZERO|1GEMINATE CONSONANT MODIFIER|1GEMINATION MARK|1HAMZA",
  "1INITIAL EXCLAMATION MARK|2QUESTION MARK|1NASALIZATION MARK|1NUKTA|1SMALL LETTER ALIF|3BA|3BHE",
  "3CHI|3DAALI|3DHA|3E|3FA|3GA|3GBE|3HA|3I|3JIIM|3KAF|3KHA|3KPO|3LAAM|3MIIM|3NHA|3NUN|3NYA|3O|3PE",
  "3QAAF|3RA|3SHA|3SINNYIIYHE|3TU|3U|3VA|3WAW|3YA|3YHE|3ZAL|1VOWEL LENGTHENER|0ADMETOS",
  "0ADMISSION TICKETS|0ADULT|0AEGEAN CHECK MARK|1DRY MEASURE FIRST SUBUNIT",
  "1LIQUID MEASURE FIRST SUBUNIT|1MEASURE SECOND SUBUNIT|2THIRD SUBUNIT|1NUMBER EIGHT|3HUNDRED",
  "3THOUSAND|2EIGHTY|3THOUSAND|2FIFTY|3THOUSAND|2FIVE|3HUNDRED|3THOUSAND|2FORTY|3THOUSAND|2FOUR",
  "3HUNDRED|3THOUSAND|2NINE|3HUNDRED|3THOUSAND|2NINETY|3THOUSAND|2ONE|3HUNDRED|3THOUSAND|2SEVEN",
  "3HUNDRED|3THOUSAND|2SEVENTY|3THOUSAND|2SIX|3HUNDRED|3THOUSAND|2SIXTY|3THOUSAND|2TEN|3THOUSAND",
  "2THIRTY|3THOUSAND|2THREE|3HUNDRED|3THOUSAND|2TWENTY|3THOUSAND|2TWO|3HUNDRED|3THOUSAND",
  "1WEIGHT BASE UNIT|2FIRST SUBUNIT|2FOURTH SUBUNIT|2SECOND SUBUNIT|2THIRD SUBUNIT",
  "1WORD SEPARATOR DOT|3LINE|0AERIAL TRAMWAY|0AFGHANI SIGN|0AHOM CONSONANT SIGN MEDIAL LA",
  "4LIGATING RA|4RA|1DIGIT EIGHT|2FIVE|2FOUR|2NINE|2ONE|2SEVEN|2SIX|2THREE|2TWO|2ZERO|1LETTER A",
  "2ALTERNATE BA|3GA|3TA|2BA|2BHA|2CA|2CHA|2DA|2DDA|2DDHA|2DHA|2GA|2GHA|2HA|2JA|2JHA|2KA|2KHA|2LA",
  "2LLA|2MA|2NA|2NGA|2NNA|2NYA|2PA|2PHA|2RA|2SA|2TA|2THA|2TTA|2TTHA|1NUMBER TEN|2TWENTY",
  "1SIGN KILLER|2RULAI|2SECTION|2SMALL SECTION|1SYMBOL VI|1VOWEL SIGN A|3AA|3AI|3AM|3AW|3E|3I|3II",
  "3O|3U|3UU|0AIRPLANE|1ARRIVING|1DEPARTURE|0AKTIESELSKAB|0ALARM CLOCK|0ALCHEMICAL SYMBOL FOR AIR",
  "3ALEMBIC|3ALKALI|3ALKALI-2|3ALUM|3AMALGAM|3ANTIMONY ORE|3AQUA REGIA|4REGIA-2|4VITAE|4VITAE-2",
  "3AQUAFORTIS|3ARSENIC|3ASHES|3AURIPIGMENT|3BATH OF MARY|5VAPOURS|3BISMUTH ORE|3BLACK SULFUR",
  "3BORAX|3BORAX-2|3BORAX-3|3BRICK|3CADUCEUS|3CALX|3CAPUT MORTUUM|3CINNABAR|3COPPER ANTIMONIATE",
  "4ORE|3CROCUS OF COPPER|5COPPER-2|5IRON|3CRUCIBLE|3CRUCIBLE-2|3CRUCIBLE-3|3CRUCIBLE-4",
  "3CRUCIBLE-5|3DAY-NIGHT|3DISSOLVE|3DISSOLVE-2|3DISTILL|3EARTH|3FIRE|3GOLD|3GUM|3HALF DRAM|4OUNCE",
  "3HORSE DUNG|3HOUR|3IRON ORE|4ORE-2|3IRON-COPPER ORE|3LEAD ORE|3LODESTONE|3MARCASITE",
  "3MERCURY SUBLIMATE|4SUBLIMATE-2|4SUBLIMATE-3|3MONTH|3NIGHT|3NITRE|3OIL|3PHILOSOPHERS SULFUR",
  "3POT ASHES|3POWDER|3POWDERED BRICK|3PRECIPITATE|3PURIFY|3PUTREFACTION|3QUICK LIME|3QUINTESSENCE",
  "3REALGAR|3REALGAR-2|3REGULUS|4OF ANTIMONY|5ANTIMONY-2|5IRON|3REGULUS-2|3REGULUS-3|3REGULUS-4",
  "3RETORT|3ROCK SALT|4SALT-2|3SAL-AMMONIAC|3SALT|4OF ANTIMONY|5COPPER ANTIMONIATE",
  "3SCEPTER OF JOVE|3SILVER|3SOAP|3SPIRIT|3STARRED TRIDENT|3STRATUM SUPER STRATUM|5STRATUM-2",
  "3SUBLIMATE OF ANTIMONY|5COPPER|5SALT OF ANTIMONY|7COPPER|3SUBLIMATION|3SULFUR|3TARTAR|3TARTAR-2",
  "3TIN ORE|3TINCTURE|3TRIDENT|3TUTTY|3URINE|3VERDIGRIS|3VINEGAR|4OF ANTIMONY|3VINEGAR-2",
  "3VINEGAR-3|3VITRIOL|3VITRIOL-2|3WATER|3WAX|0ALEF SYMBOL|0ALEMBIC|0ALERT|0ALIEN MONSTER",
  "0ALL AROUND-PROFILE|1EQUAL TO|0ALM|0ALMOST EQUAL OR EQUAL TO|2TO|3WITH CIRCUMFLEX ACCENT",
  "0ALTERNATE ONE-WAY LEFT WAY TRAFFIC|0ALTERNATIVE KEY SYMBOL|0AMALGAMATION OR COPRODUCT",
  "0AMBULANCE|0AMERICAN FOOTBALL|0AMPERSAND|0AMPHORA|0ANATOLIAN HIEROGLYPH A001|2A002|2A003|2A004",
  "2A005|2A006|2A007|2A008|2A009|2A010|2A010A|2A011|2A012|2A013|2A014|2A015|2A016|2A017|2A018",
  "2A019|2A020|2A021|2A022|2A023|2A024|2A025|2A026|2A026A|2A027|2A028|2A029|2A030|2A031|2A032",
  "2A033|2A034|2A035|2A036|2A037|2A038|2A039|2A039A|2A040|2A041|2A041A|2A042|2A043|2A044|2A045",
  "2A045A|2A046|2A046A|2A046B|2A047|2A048|2A049|2A050|2A051|2A052|2A053|2A054|2A055|2A056|2A057",
  "2A058|2A059|2A060|2A061|2A062|2A063|2A064|2A065|2A066|2A066A|2A066B|2A066C|2A067|2A068|2A069",
  "2A070|2A071|2A072|2A073|2A074|2A075|2A076|2A077|2A078|2A079|2A080|2A081|2A082|2A083|2A084|2A085",
  "2A086|2A087|2A088|2A089|2A090|2A091|2A092|2A093|2A094|2A095|2A096|2A097|2A097A|2A098|2A098A",
  "2A099|2A100|2A100A|2A101|2A101A|2A102|2A102A|2A103|2A104|2A104A|2A104B|2A104C|2A105|2A105A",
  "2A105B|2A106|2A107|2A107A|2A107B|2A107C|2A108|2A109|2A110|2A110A|2A110B|2A111|2A112|2A113|2A114",
  "2A115|2A115A|2A116|2A117|2A118|2A119|2A120|2A121|2A122|2A123|2A124|2A125|2A125A|2A126|2A127",
  "2A128|2A129|2A130|2A131|2A132|2A133|2A134|2A135|2A135A|2A136|2A137|2A138|2A139|2A140|2A141",
  "2A142|2A143|2A144|2A145|2A146|2A147|2A148|2A149|2A150|2A151|2A152|2A153|2A154|2A155|2A156|2A157",
  "2A158|2A159|2A160|2A161|2A162|2A163|2A164|2A165|2A166|2A167|2A168|2A169|2A170|2A171|2A172|2A173",
  "2A174|2A175|2A176|2A177|2A178|2A179|2A180|2A181|2A182|2A183|2A184|2A185|2A186|2A187|2A188|2A189",
  "2A190|2A191|2A192|2A193|2A194|2A195|2A196|2A197|2A198|2A199|2A200|2A201|2A202|2A202A|2A202B",
  "2A203|2A204|2A205|2A206|2A207|2A207A|2A208|2A209|2A209A|2A210|2A211|2A212|2A213|2A214|2A215",
  "2A215A|2A216|2A216A|2A217|2A218|2A219|2A220|2A221|2A222|2A223|2A224|2A225|2A226|2A227|2A227A",
  "2A228|2A229|2A230|2A231|2A232|2A233|2A234|2A235|2A236|2A237|2A238|2A239|2A240|2A241|2A242|2A243",
  "2A244|2A245|2A246|2A247|2A248|2A249|2A250|2A251|2A252|2A253|2A254|2A255|2A256|2A257|2A258|2A259",
  "2A260|2A261|2A262|2A263|2A264|2A265|2A266|2A267|2A267A|2A268|2A269|2A270|2A271|2A272|2A273",
  "2A274|2A275|2A276|2A277|2A278|2A279|2A280|2A281|2A282|2A283|2A284|2A285|2A286|2A287|2A288|2A289",
  "2A289A|2A290|2A291|2A292|2A293|2A294|2A294A|2A295|2A296|2A297|2A298|2A299|2A299A|2A300|2A301",
  "2A302|2A303|2A304|2A305|2A306|2A307|2A308|2A309|2A309A|2A310|2A311|2A312|2A313|2A314|2A315",
  "2A316|2A317|2A318|2A319|2A320|2A321|2A322|2A323|2A324|2A325|2A326|2A327|2A328|2A329|2A329A",
  "2A330|2A331|2A332A|2A332B|2A332C|2A333|2A334|2A335|2A336|2A336A|2A336B|2A336C|2A337|2A338|2A339",
  "2A340|2A341|2A342|2A343|2A344|2A345|2A346|2A347|2A348|2A349|2A350|2A351|2A352|2A353|2A354|2A355",
  "2A356|2A357|2A358|2A359|2A359A|2A360|2A361|2A362|2A363|2A364|2A364A|2A365|2A366|2A367|2A368",
  "2A368A|2A369|2A370|2A371|2A371A|2A372|2A373|2A374|2A375|2A376|2A377|2A378|2A379|2A380|2A381",
  "2A381A|2A382|2A383 RA OR RI|2A383A|2A384|2A385|2A386|2A386A|2A387|2A388|2A389|2A390|2A391|2A392",
  "2A393 EIGHT|2A394|2A395|2A396|2A397|2A398|2A399|2A400|2A401|2A402|2A403|2A404|2A405|2A406|2A407",
  "2A408|2A409|2A410 BEGIN LOGOGRAM MARK|2A410A END LOGOGRAM MARK|2A411|2A412|2A413|2A414|2A415",
  "2A416|2A417|2A418|2A419|2A420|2A421|2A422|2A423|2A424|2A425|2A426|2A427|2A428|2A429|2A430|2A431",
  "2A432|2A433|2A434|2A435|2A436|2A437|2A438|2A439|2A440|2A441|2A442|2A443|2A444|2A445|2A446|2A447",
  "2A448|2A449|2A450|2A450A|2A451|2A452|2A453|2A454|2A455|2A456|2A457|2A457A|2A458|2A459|2A460",
  "2A461|2A462|2A463|2A464|2A465|2A466|2A467|2A468|2A469|2A470|2A471|2A472|2A473|2A474|2A475|2A476",
  "2A477|2A478|2A479|2A480|2A481|2A482|2A483|2A484|2A485|2A486|2A487|2A488|2A489|2A490|2A491|2A492",
  "2A493|2A494|2A495|2A496|2A497|2A501|2A502|2A503|2A504|2A505|2A506|2A507|2A508|2A509|2A510|2A511",
  "2A512|2A513|2A514|2A515|2A516|2A517|2A518|2A519|2A520|2A521|2A522|2A523|2A524|2A525|2A526|2A527",
  "2A528|2A529|2A530|0ANATOMICAL HEART|0ANCHOR|0AND WITH DOT|0ANGER SYMBOL|0ANGLE|1WITH S INSIDE",
  "2UNDERBAR|0ANGRY FACE|0ANGSTROM SIGN|0ANGUISHED FACE|0ANKH|0ANT|0ANTENNA WITH BARS",
  "0ANTICLOCKWISE CLOSED CIRCLE ARROW|1CONTOUR INTEGRAL|1DOWNWARDS AND UPWARDS OPEN CIRCLE ARROWS",
  "1GAPPED CIRCLE ARROW|1INTEGRATION|1OPEN CIRCLE ARROW|1TOP SEMICIRCLE ARROW",
  "1TRIANGLE-HEADED BOTTOM U-SHAPED ARROW|2LEFT U-SHAPED ARROW|2OPEN CIRCLE ARROW",
  "2RIGHT U-SHAPED ARROW|2TOP U-SHAPED ARROW|0APC|0APL FUNCTIONAL SYMBOL ALPHA|4UNDERBAR",
  "3BACKSLASH BAR|3CIRCLE BACKSLASH|4DIAERESIS|4JOT|4STAR|4STILE|4UNDERBAR|3COMMA BAR",
  "3DEL DIAERESIS|4STILE|4TILDE|3DELTA STILE|4UNDERBAR|3DIAMOND UNDERBAR|3DOWN CARET TILDE",
  "4SHOE STILE|4TACK JOT|5UNDERBAR|3DOWNWARDS VANE|3EPSILON UNDERBAR|3GREATER-THAN DIAERESIS",
  "3I-BEAM|3IOTA|4UNDERBAR|3JOT DIAERESIS|4UNDERBAR|3LEFT SHOE STILE|3LEFTWARDS VANE|3OMEGA",
  "4UNDERBAR|3QUAD|4BACKSLASH|4CIRCLE|4COLON|4DEL|4DELTA|4DIAMOND|4DIVIDE|4DOWN CARET",
  "4DOWNWARDS ARROW|4EQUAL|4GREATER-THAN|4JOT|4LEFTWARDS ARROW|4LESS-THAN|4NOT EQUAL|4QUESTION",
  "4RIGHTWARDS ARROW|4SLASH|4UP CARET|4UPWARDS ARROW|3QUOTE QUAD|4UNDERBAR|3RHO|3RIGHTWARDS VANE",
  "3SEMICOLON UNDERBAR|3SLASH BAR|3SQUISH QUAD|3STAR DIAERESIS|3STILE TILDE|3TILDE DIAERESIS",
  "3UP CARET TILDE|4SHOE JOT|4TACK DIAERESIS|5JOT|5OVERBAR|3UPWARDS VANE|3ZILDE|0APOLLON",
  "0APOSTROPHE|0APPLICATION PROGRAM COMMAND|0APPROACHES THE LIMIT",
  "0APPROXIMATELY BUT NOT ACTUALLY EQUAL TO|1EQUAL OR EQUAL TO|2TO|3OR THE IMAGE OF|0AQUARIUS",
  "0ARABIC BASELINE ROUND DOT|1COMMA|1CURLY DAMMA|2DAMMATAN|2FATHA|2FATHATAN|2KASRA|2KASRATAN",
  "1DAMMA|2ISOLATED FORM|2MEDIAL FORM|2WITH DOT|1DAMMATAN|2ISOLATED FORM|1DATE SEPARATOR",
  "1DECIMAL SEPARATOR|1DISPUTED END OF AYAH|1DOUBLE RIGHT ARROWHEAD ABOVE|5WITH DOT|1DOUBLED MADDA",
  "1EMPTY CENTRE HIGH STOP|3LOW STOP|1END OF AYAH|3TEXT MARK|1FATHA|2ISOLATED FORM|2MEDIAL FORM",
  "2WITH DOT ABOVE|3RING|3TWO DOTS|1FATHATAN|2ISOLATED FORM|1FIVE POINTED STAR|1FOOTNOTE MARKER",
  "1FULL STOP|1HALF MADDA OVER MADDA|1HAMZA ABOVE|2BELOW|1INVERTED DAMMA|1KASRA|2ISOLATED FORM",
  "2MEDIAL FORM|2WITH DOT BELOW|1KASRATAN|2ISOLATED FORM|1LARGE CIRCLE BELOW|2ROUND DOT ABOVE",
  "4BELOW|4INSIDE CIRCLE BELOW|1LEFT ARROWHEAD ABOVE|3BELOW|1LETTER AE|2AFRICAN FEH|3NOON|3QAF",
  "4WITH THREE DOTS ABOVE|2AIN|3FINAL FORM|3INITIAL FORM|3ISOLATED FORM|3MEDIAL FORM",
  "3WITH THREE DOTS ABOVE|6BELOW|6POINTING DOWNWARDS ABOVE|4TWO DOTS ABOVE|6VERTICALLY ABOVE|2ALEF",
  "3FINAL FORM|3ISOLATED FORM|3MAKSURA|4FINAL FORM|4ISOLATED FORM|3WASLA|4FINAL FORM",
  "4ISOLATED FORM|3WITH ATTACHED BOTTOM RIGHT KASRA|8AND DOT ABOVE|9LEFT RING|5FATHA|5KASRA",
  "5LEFT HAMZA|6ROUND DOT|5RIGHT HAMZA|6ROUND DOT|5ROUND DOT ABOVE|7BELOW|5TOP RIGHT FATHA",
  "8AND DOT ABOVE|9LEFT RING|4DOT ABOVE|4EXTENDED ARABIC-INDIC DIGIT THREE ABOVE|7TWO ABOVE",
  "4HAMZA ABOVE|6FINAL FORM|6ISOLATED FORM|5BELOW|6FINAL FORM|6ISOLATED FORM|4LEFT MIDDLE STROKE",
  "4MADDA ABOVE|6FINAL FORM|6ISOLATED FORM|4RIGHT MIDDLE STROKE|7AND DOT ABOVE|8LEFT RING",
  "4WAVY HAMZA ABOVE|6BELOW|2BEEH|3FINAL FORM|3INITIAL FORM|3ISOLATED FORM|3MEDIAL FORM|2BEH",
  "3FINAL FORM|3INITIAL FORM|3ISOLATED FORM|3MEDIAL FORM|3WITH DOT BELOW AND THREE DOTS ABOVE",
  "4HAMZA ABOVE|4INVERTED SMALL V BELOW|4SMALL MEEM ABOVE|5V|6BELOW|4THREE DOTS HORIZONTALLY BELOW",
  "6POINTING UPWARDS BELOW|9AND TWO DOTS ABOVE|4TWO DOTS BELOW AND DOT ABOVE|2BEHEH|3FINAL FORM",
  "3INITIAL FORM|3ISOLATED FORM|3MEDIAL FORM|2DAD|3FINAL FORM|3INITIAL FORM|3ISOLATED FORM",
  "3MEDIAL FORM|3WITH DOT BELOW|2DAHAL|3FINAL FORM|3ISOLATED FORM|2DAL|3FINAL FORM|3ISOLATED FORM",
  "3WITH DOT BELOW|6AND SMALL TAH|4FOUR DOTS ABOVE|4INVERTED SMALL V BELOW|5V|4RING",
  "4THREE DOTS ABOVE DOWNWARDS|6BELOW|4TWO DOTS VERTICALLY BELOW AND SMALL TAH|2DDAHAL|3FINAL FORM",
  "3ISOLATED FORM|2DDAL|3FINAL FORM|3ISOLATED FORM|2DOTLESS BEH|3FEH|3QAF|2DUL|3FINAL FORM",
  "3ISOLATED FORM|2DYEH|3FINAL FORM|3INITIAL FORM|3ISOLATED FORM|3MEDIAL FORM|2E|3FINAL FORM",
  "3INITIAL FORM|3ISOLATED FORM|3MEDIAL FORM|2FARSI YEH|4FINAL FORM|4INITIAL FORM|4ISOLATED FORM",
  "4MEDIAL FORM|4WITH EXTENDED ARABIC-INDIC DIGIT FOUR BELOW|8THREE ABOVE|8TWO ABOVE|5INVERTED V",
  "5THREE DOTS ABOVE|5TWO DOTS ABOVE|2FEH|3FINAL FORM|3INITIAL FORM|3ISOLATED FORM|3MEDIAL FORM",
  "3WITH DOT BELOW|6AND THREE DOTS ABOVE|5MOVED BELOW|4THREE DOTS BELOW|6POINTING UPWARDS BELOW",
  "4TWO DOTS BELOW|2GAF|3FINAL FORM|3INITIAL FORM|3ISOLATED FORM|3MEDIAL FORM",
  "3WITH INVERTED STROKE|4RING|4THREE DOTS ABOVE|4TWO DOTS BELOW|2GHAIN|3FINAL FORM|3INITIAL FORM",
  "3ISOLATED FORM|3MEDIAL FORM|3WITH DOT BELOW|4THREE DOTS ABOVE|2GRAF|2GUEH|3FINAL FORM",
  "3INITIAL FORM|3ISOLATED FORM|3MEDIAL FORM|2HAH|3FINAL FORM|3INITIAL FORM|3ISOLATED FORM",
  "3MEDIAL FORM|3WITH EXTENDED ARABIC-INDIC DIGIT FOUR BELOW|4HAMZA ABOVE|4INVERTED SMALL V BELOW",
  "4SMALL ARABIC LETTER TAH ABOVE|8AND TWO DOTS|8BELOW|4THREE DOTS ABOVE|6POINTING UPWARDS BELOW",
  "4TWO DOTS ABOVE|6VERTICAL ABOVE|2HAMZA|3ISOLATED FORM|2HEH|3DOACHASHMEE|4FINAL FORM",
  "4INITIAL FORM|4ISOLATED FORM|4MEDIAL FORM|3FINAL FORM|3GOAL|4FINAL FORM|4INITIAL FORM",
  "4ISOLATED FORM|4MEDIAL FORM|4WITH HAMZA ABOVE|3INITIAL FORM|3ISOLATED FORM|3MEDIAL FORM",
  "3WITH INVERTED V|4YEH ABOVE|6FINAL FORM|6ISOLATED FORM|2HIGH HAMZA|4ALEF|4WAW|4YEH|2JEEM",
  "3FINAL FORM|3INITIAL FORM|3ISOLATED FORM|3MEDIAL FORM|3WITH THREE DOTS ABOVE|6BELOW",
  "4TWO DOTS ABOVE|2JEH|3FINAL FORM|3ISOLATED FORM|2KAF|3FINAL FORM|3INITIAL FORM|3ISOLATED FORM",
  "3MEDIAL FORM|3WITH DOT ABOVE|5BELOW|4RING|4THREE DOTS BELOW|4TWO DOTS ABOVE|2KASHMIRI YEH",
  "2KEHEH|3FINAL FORM|3INITIAL FORM|3ISOLATED FORM|3MEDIAL FORM|3WITH DOT ABOVE|4SMALL V",
  "4THREE DOTS ABOVE|6BELOW|6POINTING UPWARDS BELOW|4TWO DOTS ABOVE|6VERTICALLY BELOW|2KHAH",
  "3FINAL FORM|3INITIAL FORM|3ISOLATED FORM|3MEDIAL FORM|2KIRGHIZ OE|4FINAL FORM|4ISOLATED FORM",
  "3YU|4FINAL FORM|4ISOLATED FORM|2LAM|3FINAL FORM|3INITIAL FORM|3ISOLATED FORM|3MEDIAL FORM",
  "3WITH BAR|4DOT ABOVE|4DOUBLE BAR|4SMALL ARABIC LETTER TAH ABOVE|5V|4THREE DOTS ABOVE|6BELOW",
  "2LOW ALEF|2MARK|2MEEM|3FINAL FORM|3INITIAL FORM|3ISOLATED FORM|3MEDIAL FORM|3WITH DOT ABOVE",
  "5BELOW|4THREE DOTS ABOVE|2NG|3FINAL FORM|3INITIAL FORM|3ISOLATED FORM|3MEDIAL FORM|2NGOEH",
  "3FINAL FORM|3INITIAL FORM|3ISOLATED FORM|3MEDIAL FORM|2NOON|3FINAL FORM|3GHUNNA|4FINAL FORM",
  "4ISOLATED FORM|3INITIAL FORM|3ISOLATED FORM|3MEDIAL FORM|3WITH DOT BELOW|4INVERTED SMALL V",
  "4RING|4SMALL TAH|5V|4THREE DOTS ABOVE|4TWO DOTS BELOW|2NYEH|3FINAL FORM|3INITIAL FORM",
  "3ISOLATED FORM|3MEDIAL FORM|2OE|3FINAL FORM|3ISOLATED FORM|2PEH|3FINAL FORM|3INITIAL FORM",
  "3ISOLATED FORM|3MEDIAL FORM|3WITH SMALL MEEM ABOVE|5V|2PEHEH|3FINAL FORM|3INITIAL FORM",
  "3ISOLATED FORM|3MEDIAL FORM|2QAF|3FINAL FORM|3INITIAL FORM|3ISOLATED FORM|3MEDIAL FORM",
  "3WITH DOT ABOVE|5BELOW|6AND NO DOTS ABOVE|4THREE DOTS ABOVE|2REH|3FINAL FORM|3ISOLATED FORM",
  "3WITH DOT BELOW|6AND DOT ABOVE|4FOUR DOTS ABOVE|4HAMZA ABOVE|4INVERTED V|4LOOP|4RING",
  "4SMALL ARABIC LETTER TAH AND TWO DOTS|5NOON ABOVE|5V|6BELOW|4STROKE|4TWO DOTS ABOVE",
  "6VERTICALLY ABOVE|2RNOON|3FINAL FORM|3INITIAL FORM|3ISOLATED FORM|3MEDIAL FORM|2ROHINGYA YEH",
  "2RREH|3FINAL FORM|3ISOLATED FORM|2SAD|3FINAL FORM|3INITIAL FORM|3ISOLATED FORM|3MEDIAL FORM",
  "3WITH THREE DOTS ABOVE|6BELOW|4TWO DOTS BELOW|2SEEN|3FINAL FORM|3INITIAL FORM|3ISOLATED FORM",
  "3MEDIAL FORM|3WITH DOT BELOW AND DOT ABOVE|4EXTENDED ARABIC-INDIC DIGIT FOUR ABOVE",
  "4FOUR DOTS ABOVE|4INVERTED V|4SMALL ARABIC LETTER TAH AND TWO DOTS|4THREE DOTS BELOW",
  "7AND THREE DOTS ABOVE|4TWO DOTS VERTICALLY ABOVE|2SHEEN|3FINAL FORM|3INITIAL FORM",
  "3ISOLATED FORM|3MEDIAL FORM|3WITH DOT BELOW|2STRAIGHT WAW|2SUPERSCRIPT ALEF|2SWASH KAF|2TAH",
  "3FINAL FORM|3INITIAL FORM|3ISOLATED FORM|3MEDIAL FORM|3WITH DOT BELOW|4THREE DOTS ABOVE|6BELOW",
  "4TWO DOTS ABOVE|2TCHEH|3FINAL FORM|3INITIAL FORM|3ISOLATED FORM|3MEDIAL FORM|3WITH DOT ABOVE",
  "4SMALL V|2TCHEHEH|3FINAL FORM|3INITIAL FORM|3ISOLATED FORM|3MEDIAL FORM|2TEH|3FINAL FORM",
  "3INITIAL FORM|3ISOLATED FORM|3MARBUTA|4FINAL FORM|4GOAL|4ISOLATED FORM|3MEDIAL FORM|3WITH RING",
  "4SMALL TEH ABOVE|5V|4THREE DOTS ABOVE DOWNWARDS|2TEHEH|3FINAL FORM|3INITIAL FORM|3ISOLATED FORM",
  "3MEDIAL FORM|2THAL|3FINAL FORM|3ISOLATED FORM|2THEH|3FINAL FORM|3INITIAL FORM|3ISOLATED FORM",
  "3MEDIAL FORM|2THIN YEH|2TTEH|3FINAL FORM|3INITIAL FORM|3ISOLATED FORM|3MEDIAL FORM",
  "3WITH SMALL V|2TTEHEH|3FINAL FORM|3INITIAL FORM|3ISOLATED FORM|3MEDIAL FORM|2U|3FINAL FORM",
  "3ISOLATED FORM|3WITH HAMZA ABOVE|6ISOLATED FORM",
  "2UIGHUR KAZAKH KIRGHIZ ALEF MAKSURA INITIAL FORM|7MEDIAL FORM|2VE|3FINAL FORM|3ISOLATED FORM",
  "2VEH|3FINAL FORM|3INITIAL FORM|3ISOLATED FORM|3MEDIAL FORM|2WAW|3FINAL FORM|3ISOLATED FORM",
  "3WITH DOT ABOVE|5WITHIN|4EXTENDED ARABIC-INDIC DIGIT THREE ABOVE|7TWO ABOVE|4HAMZA ABOVE",
  "6FINAL FORM|6ISOLATED FORM|4RING|4TWO DOTS ABOVE|2YEH|3BARREE|4FINAL FORM|4ISOLATED FORM",
  "4WITH EXTENDED ARABIC-INDIC DIGIT THREE ABOVE|8TWO ABOVE|5HAMZA ABOVE|7FINAL FORM",
  "7ISOLATED FORM|3FINAL FORM|3INITIAL FORM|3ISOLATED FORM|3MEDIAL FORM|3WITH HAMZA ABOVE",
  "6FINAL FORM|6INITIAL FORM|6ISOLATED FORM|6MEDIAL FORM|4SMALL V|4TAIL|4THREE DOTS BELOW",
  "4TWO DOTS BELOW AND DOT ABOVE|8HAMZA ABOVE|8SMALL NOON ABOVE|2YU|3FINAL FORM|3ISOLATED FORM",
  "2ZAH|3FINAL FORM|3INITIAL FORM|3ISOLATED FORM|3MEDIAL FORM|2ZAIN|3FINAL FORM|3ISOLATED FORM",
  "3WITH INVERTED V ABOVE|1LIGATURE AIN WITH ALEF MAKSURA FINAL FORM|6ISOLATED FORM",
  "4JEEM INITIAL FORM|5ISOLATED FORM|5WITH MEEM FINAL FORM|7INITIAL FORM|4MEEM INITIAL FORM",
  "5ISOLATED FORM|5WITH ALEF MAKSURA FINAL FORM|6MEEM FINAL FORM|7INITIAL FORM|6YEH FINAL FORM",
  "4YEH FINAL FORM|5ISOLATED FORM|2AKBAR ISOLATED FORM|2ALAYHAA AS-SALAAM|2ALAYHE ISOLATED FORM",
  "2ALAYHI AS-SALAAM|3AS-SALAATU WAS-SALAAM|2ALAYHIM AS-SALAAM|2ALAYHIMAA AS-SALAAM",
  "2ALEF MAKSURA WITH SUPERSCRIPT ALEF FINAL FORM|7ISOLATED FORM|3WITH FATHATAN FINAL FORM",
  "5ISOLATED FORM|2ALLAH ISOLATED FORM|2AZZA WA JALL|2BEH WITH ALEF MAKSURA FINAL FORM",
  "6ISOLATED FORM|4HAH INITIAL FORM|5ISOLATED FORM|5WITH YEH FINAL FORM|4HEH INITIAL FORM",
  "5MEDIAL FORM|4JEEM INITIAL FORM|5ISOLATED FORM|4KHAH INITIAL FORM|5ISOLATED FORM",
  "5WITH YEH FINAL FORM|4MEEM FINAL FORM|5INITIAL FORM|5ISOLATED FORM|5MEDIAL FORM",
  "4NOON FINAL FORM|4REH FINAL FORM|4YEH FINAL FORM|5ISOLATED FORM|4ZAIN FINAL FORM",
  "2BISMILLAH AR-RAHMAN AR-RAHEEM|2DAD WITH ALEF MAKSURA FINAL FORM|6ISOLATED FORM",
  "4HAH INITIAL FORM|5ISOLATED FORM|5WITH ALEF MAKSURA FINAL FORM|6YEH FINAL FORM",
  "4JEEM INITIAL FORM|5ISOLATED FORM|4KHAH INITIAL FORM|5ISOLATED FORM|5WITH MEEM FINAL FORM",
  "7INITIAL FORM|4MEEM INITIAL FORM|5ISOLATED FORM|4REH FINAL FORM|5ISOLATED FORM|4YEH FINAL FORM",
  "5ISOLATED FORM|2FEH WITH ALEF MAKSURA FINAL FORM|6ISOLATED FORM|4HAH INITIAL FORM",
  "5ISOLATED FORM|4JEEM INITIAL FORM|5ISOLATED FORM|4KHAH INITIAL FORM|5ISOLATED FORM",
  "5WITH MEEM FINAL FORM|7INITIAL FORM|4MEEM INITIAL FORM|5ISOLATED FORM|5WITH YEH FINAL FORM",
  "4YEH FINAL FORM|5ISOLATED FORM|2GHAIN WITH ALEF MAKSURA FINAL FORM|6ISOLATED FORM",
  "4JEEM INITIAL FORM|5ISOLATED FORM|4MEEM INITIAL FORM|5ISOLATED FORM",
  "5WITH ALEF MAKSURA FINAL FORM|6MEEM FINAL FORM|6YEH FINAL FORM|4YEH FINAL FORM|5ISOLATED FORM",
  "2HAH WITH ALEF MAKSURA FINAL FORM|6ISOLATED FORM|4JEEM INITIAL FORM|5ISOLATED FORM",
  "5WITH YEH FINAL FORM|4MEEM INITIAL FORM|5ISOLATED FORM|5WITH ALEF MAKSURA FINAL FORM",
  "6YEH FINAL FORM|4YEH FINAL FORM|5ISOLATED FORM|2HEH WITH ALEF MAKSURA ISOLATED FORM",
  "4JEEM INITIAL FORM|5ISOLATED FORM|4MEEM INITIAL FORM|5ISOLATED FORM|5WITH JEEM INITIAL FORM",
  "6MEEM INITIAL FORM|4SUPERSCRIPT ALEF INITIAL FORM|4YEH ISOLATED FORM|2JALLAJALALOUHOU",
  "2JEEM WITH ALEF MAKSURA FINAL FORM|6ISOLATED FORM|4HAH INITIAL FORM|5ISOLATED FORM",
  "5WITH ALEF MAKSURA FINAL FORM|6YEH FINAL FORM|4MEEM INITIAL FORM|5ISOLATED FORM",
  "5WITH ALEF MAKSURA FINAL FORM|6HAH FINAL FORM|7INITIAL FORM|6YEH FINAL FORM|4YEH FINAL FORM",
  "5ISOLATED FORM|2KAF WITH ALEF FINAL FORM|5ISOLATED FORM|5MAKSURA FINAL FORM|6ISOLATED FORM",
  "4HAH INITIAL FORM|5ISOLATED FORM|4JEEM INITIAL FORM|5ISOLATED FORM|4KHAH INITIAL FORM",
  "5ISOLATED FORM|4LAM FINAL FORM|5INITIAL FORM|5ISOLATED FORM|5MEDIAL FORM|4MEEM FINAL FORM",
  "5INITIAL FORM|5ISOLATED FORM|5MEDIAL FORM|5WITH MEEM FINAL FORM|7INITIAL FORM|6YEH FINAL FORM",
  "4YEH FINAL FORM|5ISOLATED FORM|2KHAH WITH ALEF MAKSURA FINAL FORM|6ISOLATED FORM",
  "4HAH ISOLATED FORM|4JEEM INITIAL FORM|5ISOLATED FORM|4MEEM INITIAL FORM|5ISOLATED FORM",
  "4YEH FINAL FORM|5ISOLATED FORM|2LAM WITH ALEF FINAL FORM|5ISOLATED FORM|5MAKSURA FINAL FORM",
  "6ISOLATED FORM|5WITH HAMZA ABOVE FINAL FORM|8ISOLATED FORM|7BELOW FINAL FORM|8ISOLATED FORM",
  "6MADDA ABOVE FINAL FORM|8ISOLATED FORM|4HAH INITIAL FORM|5ISOLATED FORM",
  "5WITH ALEF MAKSURA FINAL FORM|6MEEM FINAL FORM|7INITIAL FORM|6YEH FINAL FORM|4HEH INITIAL FORM",
  "4JEEM INITIAL FORM|5ISOLATED FORM|5WITH JEEM FINAL FORM|7INITIAL FORM|6MEEM FINAL FORM",
  "7INITIAL FORM|6YEH FINAL FORM|4KHAH INITIAL FORM|5ISOLATED FORM|5WITH MEEM FINAL FORM",
  "7INITIAL FORM|4MEEM FINAL FORM|5INITIAL FORM|5ISOLATED FORM|5MEDIAL FORM|5WITH HAH FINAL FORM",
  "7INITIAL FORM|6YEH FINAL FORM|4YEH FINAL FORM|5ISOLATED FORM|2MEEM WITH ALEF FINAL FORM",
  "5MAKSURA ISOLATED FORM|4HAH INITIAL FORM|5ISOLATED FORM|5WITH JEEM INITIAL FORM",
  "6MEEM INITIAL FORM|6YEH FINAL FORM|4JEEM INITIAL FORM|5ISOLATED FORM|5WITH HAH INITIAL FORM",
  "6KHAH INITIAL FORM|6MEEM INITIAL FORM|6YEH FINAL FORM|4KHAH INITIAL FORM|5ISOLATED FORM",
  "5WITH JEEM INITIAL FORM|6MEEM INITIAL FORM|6YEH FINAL FORM|4MEEM FINAL FORM|5INITIAL FORM",
  "5ISOLATED FORM|5WITH YEH FINAL FORM|4YEH ISOLATED FORM|2MOHAMMAD ISOLATED FORM",
  "2NOON WITH ALEF MAKSURA FINAL FORM|6ISOLATED FORM|4HAH INITIAL FORM|5ISOLATED FORM",
  "5WITH ALEF MAKSURA FINAL FORM|6MEEM INITIAL FORM|6YEH FINAL FORM|4HEH INITIAL FORM|5MEDIAL FORM",
  "4JEEM INITIAL FORM|5ISOLATED FORM|5WITH ALEF MAKSURA FINAL FORM|6HAH FINAL FORM|7INITIAL FORM",
  "6MEEM FINAL FORM|7INITIAL FORM|6YEH FINAL FORM|4KHAH INITIAL FORM|5ISOLATED FORM",
  "4MEEM FINAL FORM|5INITIAL FORM|5ISOLATED FORM|5MEDIAL FORM|5WITH ALEF MAKSURA FINAL FORM",
  "6YEH FINAL FORM|4NOON FINAL FORM|4REH FINAL FORM|4YEH FINAL FORM|5ISOLATED FORM",
  "4ZAIN FINAL FORM|2QAF WITH ALEF MAKSURA FINAL FORM|6ISOLATED FORM|4HAH INITIAL FORM",
  "5ISOLATED FORM|4MEEM INITIAL FORM|5ISOLATED FORM|5WITH HAH FINAL FORM|7INITIAL FORM",
  "6MEEM FINAL FORM|6YEH FINAL FORM|4YEH FINAL FORM|5ISOLATED FORM",
  "2QALA USED AS KORANIC STOP SIGN ISOLATED FORM|2QUDDISA SIRRAH|2RADI ALLAAHU ANH|4ANHAA|4ANHUM",
  "4ANHUMAA|4ANHUNNA|2RAHIMAHU ALLAAH|2RAHIMAHUM ALLAAH|2RASOUL ISOLATED FORM",
  "2REH WITH SUPERSCRIPT ALEF ISOLATED FORM|2SAD WITH ALEF MAKSURA FINAL FORM|6ISOLATED FORM",
  "4HAH INITIAL FORM|5ISOLATED FORM|5WITH HAH FINAL FORM|7INITIAL FORM|6YEH FINAL FORM",
  "4KHAH INITIAL FORM|4MEEM INITIAL FORM|5ISOLATED FORM|5WITH MEEM FINAL FORM|7INITIAL FORM",
  "4REH FINAL FORM|5ISOLATED FORM|4YEH FINAL FORM|5ISOLATED FORM|2SALAAMUHU ALAYNAA",
  "2SALAM ISOLATED FORM|2SALLA ISOLATED FORM|3USED AS KORANIC STOP SIGN ISOLATED FORM",
  "2SALLALLAAHU ALAYHI WA-AALIH|2SALLALLAHOU ALAYHE WASALLAM",
  "2SALLALLAHU ALAYHI WAAALIHEE WA-SALLAM|2SEEN WITH ALEF MAKSURA FINAL FORM|6ISOLATED FORM",
  "4HAH INITIAL FORM|5ISOLATED FORM|5MEDIAL FORM|5WITH JEEM INITIAL FORM|4HEH INITIAL FORM",
  "5MEDIAL FORM|4JEEM INITIAL FORM|5ISOLATED FORM|5MEDIAL FORM|5WITH ALEF MAKSURA FINAL FORM",
  "6HAH INITIAL FORM|4KHAH INITIAL FORM|5ISOLATED FORM|5MEDIAL FORM|5WITH ALEF MAKSURA FINAL FORM",
  "6YEH FINAL FORM|4MEEM INITIAL FORM|5ISOLATED FORM|5MEDIAL FORM|5WITH HAH FINAL FORM",
  "7INITIAL FORM|6JEEM INITIAL FORM|6MEEM FINAL FORM|7INITIAL FORM|4REH FINAL FORM|5ISOLATED FORM",
  "4YEH FINAL FORM|5ISOLATED FORM|2SHADDA WITH DAMMA ISOLATED FORM|5MEDIAL FORM",
  "4DAMMATAN ISOLATED FORM|4FATHA ISOLATED FORM|5MEDIAL FORM|4KASRA ISOLATED FORM|5MEDIAL FORM",
  "4KASRATAN ISOLATED FORM|4SUPERSCRIPT ALEF ISOLATED FORM|2SHEEN WITH ALEF MAKSURA FINAL FORM",
  "6ISOLATED FORM|4HAH FINAL FORM|5INITIAL FORM|5ISOLATED FORM|5MEDIAL FORM|5WITH MEEM FINAL FORM",
  "7INITIAL FORM|6YEH FINAL FORM|4HEH INITIAL FORM|5MEDIAL FORM|4JEEM FINAL FORM|5INITIAL FORM",
  "5ISOLATED FORM|5MEDIAL FORM|5WITH YEH FINAL FORM|4KHAH FINAL FORM|5INITIAL FORM|5ISOLATED FORM",
  "5MEDIAL FORM|4MEEM FINAL FORM|5INITIAL FORM|5ISOLATED FORM|5MEDIAL FORM|5WITH KHAH FINAL FORM",
  "7INITIAL FORM|6MEEM FINAL FORM|7INITIAL FORM|4REH FINAL FORM|5ISOLATED FORM|4YEH FINAL FORM",
  "5ISOLATED FORM|2SUBHAANAHU WA TAAALAA|2TABAARAKA WA-TAAALAA|2TAH WITH ALEF MAKSURA FINAL FORM",
  "6ISOLATED FORM|4HAH INITIAL FORM|5ISOLATED FORM|4MEEM INITIAL FORM|5ISOLATED FORM|5MEDIAL FORM",
  "5WITH HAH FINAL FORM|7INITIAL FORM|6MEEM INITIAL FORM|6YEH FINAL FORM|4YEH FINAL FORM",
  "5ISOLATED FORM|2TEH WITH ALEF MAKSURA FINAL FORM|6ISOLATED FORM|4HAH INITIAL FORM",
  "5ISOLATED FORM|5WITH JEEM FINAL FORM|7INITIAL FORM|6MEEM INITIAL FORM|4HEH INITIAL FORM",
  "5MEDIAL FORM|4JEEM INITIAL FORM|5ISOLATED FORM|5WITH ALEF MAKSURA FINAL FORM|6MEEM INITIAL FORM",
  "6YEH FINAL FORM|4KHAH INITIAL FORM|5ISOLATED FORM|5WITH ALEF MAKSURA FINAL FORM",
  "6MEEM INITIAL FORM|6YEH FINAL FORM|4MEEM FINAL FORM|5INITIAL FORM|5ISOLATED FORM|5MEDIAL FORM",
  "5WITH ALEF MAKSURA FINAL FORM|6HAH INITIAL FORM|6JEEM INITIAL FORM|6KHAH INITIAL FORM",
  "6YEH FINAL FORM|4NOON FINAL FORM|4REH FINAL FORM|4YEH FINAL FORM|5ISOLATED FORM",
  "4ZAIN FINAL FORM|2THAL WITH SUPERSCRIPT ALEF ISOLATED FORM|2THEH WITH ALEF MAKSURA FINAL FORM",
  "6ISOLATED FORM|4HEH MEDIAL FORM|4JEEM ISOLATED FORM|4MEEM FINAL FORM|5INITIAL FORM",
  "5ISOLATED FORM|5MEDIAL FORM|4NOON FINAL FORM|4REH FINAL FORM|4YEH FINAL FORM|5ISOLATED FORM",
  "4ZAIN FINAL FORM|2UIGHUR KIRGHIZ YEH WITH HAMZA ABOVE WITH ALEF MAKSURA FINAL FORM",
  "bINITIAL FORM|bISOLATED FORM|2WASALLAM ISOLATED FORM|2YEH WITH ALEF MAKSURA FINAL FORM",
  "6ISOLATED FORM|4HAH INITIAL FORM|5ISOLATED FORM|5WITH YEH FINAL FORM",
  "4HAMZA ABOVE WITH AE FINAL FORM|8ISOLATED FORM|7ALEF FINAL FORM|8ISOLATED FORM",
  "8MAKSURA FINAL FORM|9ISOLATED FORM|7E FINAL FORM|8INITIAL FORM|8ISOLATED FORM|7HAH INITIAL FORM",
  "8ISOLATED FORM|7HEH INITIAL FORM|8MEDIAL FORM|7JEEM INITIAL FORM|8ISOLATED FORM",
  "7KHAH INITIAL FORM|7MEEM FINAL FORM|8INITIAL FORM|8ISOLATED FORM|8MEDIAL FORM|7NOON FINAL FORM",
  "7OE FINAL FORM|8ISOLATED FORM|7REH FINAL FORM|7U FINAL FORM|8ISOLATED FORM|7WAW FINAL FORM",
  "8ISOLATED FORM|7YEH FINAL FORM|8ISOLATED FORM|7YU FINAL FORM|8ISOLATED FORM|7ZAIN FINAL FORM",
  "4HEH INITIAL FORM|5MEDIAL FORM|4JEEM INITIAL FORM|5ISOLATED FORM|5WITH YEH FINAL FORM",
  "4KHAH INITIAL FORM|5ISOLATED FORM|4MEEM FINAL FORM|5INITIAL FORM|5ISOLATED FORM|5MEDIAL FORM",
  "5WITH MEEM FINAL FORM|7INITIAL FORM|6YEH FINAL FORM|4NOON FINAL FORM|4REH FINAL FORM",
  "4YEH FINAL FORM|5ISOLATED FORM|4ZAIN FINAL FORM|2ZAH WITH MEEM INITIAL FORM|5ISOLATED FORM",
  "5MEDIAL FORM|1MADDA WAAJIB|1MADDAH ABOVE|1MARK NOON GHUNNA|2SIDEWAYS NOON GHUNNA",
  "1MATHEMATICAL AIN|2ALEF|2BEH|2DAD|2DAL|2DOTLESS BEH|3FEH|3NOON|3QAF|2DOUBLE-STRUCK AIN|3BEH",
  "3DAD|3DAL|3FEH|3GHAIN|3HAH|3JEEM|3KHAH|3LAM|3MEEM|3NOON|3QAF|3REH|3SAD|3SEEN|3SHEEN|3TAH|3TEH",
  "3THAL|3THEH|3WAW|3YEH|3ZAH|3ZAIN|2FEH|2GHAIN|2HAH|2INITIAL AIN|3BEH|3DAD|3FEH|3GHAIN|3HAH|3HEH",
  "3JEEM|3KAF|3KHAH|3LAM|3MEEM|3NOON|3QAF|3SAD|3SEEN|3SHEEN|3TEH|3THEH|3YEH|2JEEM|2KAF|2KHAH|2LAM",
  "2LOOPED AIN|3ALEF|3BEH|3DAD|3DAL|3FEH|3GHAIN|3HAH|3HEH|3JEEM|3KHAH|3LAM|3MEEM|3NOON|3QAF|3REH",
  "3SAD|3SEEN|3SHEEN|3TAH|3TEH|3THAL|3THEH|3WAW|3YEH|3ZAH|3ZAIN|2MEEM|2NOON|2OPERATOR HAH WITH DAL",
  "3MEEM WITH HAH WITH TATWEEL|2QAF|2REH|2SAD|2SEEN|2SHEEN|2STRETCHED AIN|3BEH|3DAD|3DOTLESS BEH",
  "4FEH|3FEH|3GHAIN|3HAH|3HEH|3JEEM|3KAF|3KHAH|3MEEM|3NOON|3QAF|3SAD|3SEEN|3SHEEN|3TAH|3TEH|3THEH",
  "3YEH|3ZAH|2TAH|2TAILED AIN|3DAD|3DOTLESS NOON|4QAF|3GHAIN|3HAH|3JEEM|3KHAH|3LAM|3NOON|3QAF|3SAD",
  "3SEEN|3SHEEN|3YEH|2TEH|2THAL|2THEH|2WAW|2YEH|2ZAH|2ZAIN|1NUMBER MARK ABOVE|2SIGN|1OPEN DAMMATAN",
  "2FATHATAN|2KASRATAN|1PERCENT SIGN|1PIASTRE MARK ABOVE|1PLACE OF SAJDAH|1POETIC VERSE SIGN",
  "1POUND MARK ABOVE|1QUESTION MARK|1RAISED ROUND DOT|1RAY|1REVERSED DAMMA|1RIGHT ARROWHEAD ABOVE",
  "4WITH DOT|3BELOW|1ROUNDED HIGH STOP WITH FILLED CENTRE|1SEMICOLON|1SHADDA|2ISOLATED FORM",
  "2MEDIAL FORM|1SIGN ALAYHE ASSALLAM|2MISRA|2RADI ALLAHOU ANHU|2RAHMATULLAH ALAYHE|2SAFHA",
  "2SALLALLAHOU ALAYHE WASSALLAM|2SAMVAT|2SANAH|2SINDHI AMPERSAND|3POSTPOSITION MEN|2TAKHALLUS",
  "1SMALL DAMMA|2FARSI YEH|2FATHA|2HIGH AIN|3DOTLESS HEAD OF KHAH|3FARSI YEH|3FOOTNOTE MARKER",
  "3JEEM|3LAM ALEF|3LIGATURE ALEF WITH LAM WITH YEH|4QAF WITH LAM WITH ALEF MAKSURA",
  "4SAD WITH LAM WITH ALEF MAKSURA|3MADDA|3MEEM INITIAL FORM|4ISOLATED FORM|3NOON|4WITH KASRA|3QAF",
  "3ROUNDED ZERO|3SAD|3SEEN|3SIGN SAFHA|3TAH|3THREE DOTS|3UPRIGHT RECTANGULAR ZERO|3WAW",
  "3WORD AL-JUZ|4AN-NISF|4AR-RUB|4AS-SAJDA|4ATH-THALATHA|4QIF|4SAH|4SAKTA|4WAQFA|3YEH",
  "4BARREE WITH TWO DOTS BELOW|3ZAH|3ZAIN|2KASRA|2LOW MEEM|3NOON WITH KASRA|3SEEN|3WAW",
  "3WORD IMAALA|4ISHMAAM|4TASHEEL|2WAW|2YEH|1START OF RUB EL HIZB|1SUBSCRIPT ALEF|1SUKUN|2BELOW",
  "2ISOLATED FORM|2MEDIAL FORM|1SUPERSCRIPT ALEF MOKHASSAS|1SYMBOL DOT ABOVE|3BELOW",
  "2DOUBLE VERTICAL BAR BELOW|2FOUR DOTS ABOVE|4BELOW|2RING|2SMALL TAH ABOVE|4BELOW",
  "2THREE DOTS ABOVE|4BELOW|4POINTING DOWNWARDS ABOVE|6BELOW|2TWO DOTS ABOVE|4BELOW",
  "4VERTICALLY ABOVE|5BELOW|2WASLA ABOVE|1TAIL FRAGMENT|1TATWEEL|2WITH FATHATAN ABOVE",
  "3OVERSTRUCK HAMZA|4WAW|3TWO DOTS BELOW|1THOUSANDS SEPARATOR|1TONE LOOP ABOVE|3BELOW",
  "2ONE DOT ABOVE|4BELOW|2TWO DOTS ABOVE|4BELOW|1TRIPLE DOT PUNCTUATION MARK|1TURNED DAMMA BELOW",
  "1VERTICAL TAIL|1VOWEL SIGN DOT BELOW|3INVERTED SMALL V ABOVE|3SMALL V ABOVE|1WAVY HAMZA BELOW",
  "1ZWARAKAY|0ARABIC-INDIC CUBE ROOT|1DIGIT EIGHT|2FIVE|2FOUR|2NINE|2ONE|2SEVEN|2SIX|2THREE|2TWO",
  "2ZERO|1FOURTH ROOT|1PER MILLE SIGN|2TEN THOUSAND SIGN|0ARC|0ARIES|0ARMENIAN ABBREVIATION MARK",
  "1APOSTROPHE|1CAPITAL LETTER AYB|3BEN|3CA|3CHA|3CHEH|3CO|3DA|3ECH|3EH|3ET|3FEH|3GHAD|3GIM|3HO",
  "3INI|3JA|3JHEH|3KEH|3KEN|3LIWN|3MEN|3NOW|3OH|3PEH|3PIWR|3RA|3REH|3SEH|3SHA|3TIWN|3TO|3VEW|3VO",
  "3XEH|3YI|3YIWN|3ZA|3ZHE|1COMMA|1DRAM SIGN|1EMPHASIS MARK|1EXCLAMATION MARK|1FULL STOP|1HYPHEN",
  "1MODIFIER LETTER LEFT HALF RING|1QUESTION MARK|1SMALL LETTER AYB|3BEN|3CA|3CHA|3CHEH|3CO|3DA",
  "3ECH|3EH|3ET|3FEH|3GHAD|3GIM|3HO|3INI|3JA|3JHEH|3KEH|3KEN|3LIWN|3MEN|3NOW|3OH|3PEH|3PIWR|3RA",
  "3REH|3SEH|3SHA|3TIWN|3TO|3TURNED AYB|3VEW|3VO|3XEH|3YI|4WITH STROKE|3YIWN|3ZA|3ZHE",
  "2LIGATURE ECH YIWN|3MEN ECH|4INI|4NOW|4XEH|3VEW NOW",
  "0ARROW POINTING DOWNWARDS THEN CURVING LEFTWARDS|5RIGHTWARDS|2RIGHTWARDS THEN CURVING DOWNWARDS",
  "5SOUTH WEST|5UPWARDS|2UPWARDS THEN NORTH WEST|0ARROWHEAD-SHAPED POINTER|0ARTICULATED LORRY",
  "0ARTIST PALETTE|0ASCENDING NODE|0ASCIA SYMBOL|0ASSERTION|0ASTERISK|1OPERATOR|0ASTERISM",
  "0ASTONISHED FACE|0ASTRAEA|0ASTRONOMICAL SYMBOL FOR URANUS|0ASYMPTOTICALLY EQUAL TO",
  "0ATHLETIC SHOE|0ATOM SYMBOL|0AUBERGINE|0AUSTRAL SIGN|0AUTO RICKSHAW|0AUTOMATED TELLER MACHINE",
  "0AUTOMOBILE|0AVESTAN ABBREVIATION MARK|1LETTER A|2AA|2AAN|2AAO|2AE|2AEE|2AN|2AO|2BE|2BHE|2CE",
  "2DE|2DHE|2E|2EE|2FE|2GE|2GGE|2GHE|2HE|2HME|2I|2II|2JE|2KE|2LE|2ME|2NE|2NGE|2NGVE|2NGYE|2NNE",
  "2NYE|2O|2OO|2PE|2RE|2SE|2SHE|2SHYE|2SSHE|2TE|2THE|2TTE|2U|2UU|2VE|2XE|2XVE|2XYE|2YE|2YYE|2ZE",
  "2ZHE|0AVOCADO|0AXE|0BABY|1ANGEL|1BOTTLE|1CHICK|1SYMBOL|0BACK OF ENVELOPE",
  "1WITH LEFTWARDS ARROW ABOVE|0BACK-TILTED SHADOWED WHITE RIGHTWARDS ARROW",
  "0BACKSLANTED SOUTH ARROW WITH HOOKED TAIL|4HORIZONTAL TAIL|0BACKSPACE|0BACON|0BACTRIAN CAMEL",
  "0BADGER|0BADMINTON RACQUET AND SHUTTLECOCK|0BAGEL|0BAGGAGE CLAIM|0BAGUETTE BREAD",
  "0BALINESE ADEG ADEG|1CARIK PAMUNGKAH|2PAREREN|2SIKI|1DIGIT EIGHT|2FIVE|2FOUR|2NINE|2ONE|2SEVEN",
  "2SIX|2THREE|2TWO|2ZERO|1LETTER AIKARA|2AKARA|3TEDUNG|2ARCHAIC JNYA|2ASYURA SASAK|2BA|3KEMBANG",
  "2CA|3LACA|2DA|3MADU|3MURDA ALPAPRANA|4MAHAPRANA|2EF SASAK|2EKARA|2GA|3GORA|2HA|2IKARA|3TEDUNG",
  "2JA|3JERA|2KA|3MAHAPRANA|2KAF SASAK|2KHOT SASAK|2LA|3LENGA|4TEDUNG|2MA|2NA|3RAMBAT|2NGA|2NYA",
  "2OKARA|3TEDUNG|2PA|3KAPAL|2RA|3REPA|4TEDUNG|2SA|3SAGA|3SAPA|2TA|3LATIK|3MURDA MAHAPRANA|3TAWA",
  "2TZIR SASAK|2UKARA|3TEDUNG|2VE SASAK|2WA|2YA|2ZAL SASAK|1MUSICAL SYMBOL COMBINING BENDE|4ENDEP",
  "4GONG|4JEGOGAN|4KEMPLI|5WITH JEGOGAN|4KEMPUL|5WITH JEGOGAN|4TEGEH|3DAENG|3DAING|3DANG|4GEDE",
  "4SURANG|3DENG|3DEUNG|3DING|3DONG|3DUNG|3LEFT-HAND CLOSED PLAK|5PLUK|4OPEN PANG|5PING|5PUNG",
  "3RIGHT-HAND CLOSED TAK|5TUK|4OPEN DAG|5DUG|1PAMADA|2LANTANG|1PAMENENG|1PANTI|2LANTANG",
  "1SIGN BISAH|2CECEK|2REREKAN|2SURANG|2ULU CANDRA|3RICEM|1VOWEL SIGN LA LENGA|5TEDUNG|3PEPET",
  "4TEDUNG|3RA REPA|5TEDUNG|3SUKU|4ILUT|3TALING|4REPA|5TEDUNG|4TEDUNG|3TEDUNG|3ULU|4SARI|1WINDU",
  "0BALL OF YARN|0BALLET SHOES|0BALLOON|0BALLOON-SPOKED ASTERISK|0BALLOT BOLD SCRIPT X|1BOX",
  "2WITH BALLOT|3BOLD CHECK|4SCRIPT X|3CHECK|3LIGHT X|3SCRIPT X|3X|1SCRIPT X|1X|0BAMUM COLON",
  "1COMBINING MARK KOQNDON|3TUKWENTIS|1COMMA|1FULL STOP|1LETTER A|2EE|2FAAMAE|2FEE|2FOM|2FU|2I|2KA",
  "2KEN|2KET|2KEUX|2KI|2KO|2KOGHOM|2KOVUU|2KPA|2KU|2KYEE|2LA|2LEEEE|2LI|2LOQ|2LU|2M|2MA|2MBAA",
  "2MBEN|2MEEEE|2MEN|2MI|2MO|2MU|2NA|2NDAA|2NGA|2NGGA|2NGKWAEN|2NI|2NJAEM|2NJEE|2NJUAE|2NSHA|2NTEE",
  "2NTUU|2NU|2NUAE|2NYI|2O|2PA|2PEE|2PEUX|2PHASE-A FIRI|3GBIEE FON|3GHEUAEGHEUAE|3GHEUAERAE|3KAFA",
  "3KAQ|3KET|3KEUKEUTNDA|3KPOQ|3KUOQ|3LAPAQ|3LET KUT|3LOMMAE|3LU|3LUAEP|3MAEKEUP|3MAEM|3MAEMBGBIEE",
  "3MAEMKPEN|3MAEMVEUX|3MAENYI|3MAESI|3MANSUAE|3MAP PIEET|3MBANYI|3MBAQ|3MEUNJOMNDEUQ|3MGBASA",
  "3MON NGGEUAET|3MOOMEUT|3MOOMPUQ|3MVEUAENGAM|3NAA MFON|3NAQ|3NDA LEERAEWA|3NDAANGGEUAET|3NEN",
  "3NGANGU|3NGGEN|3NGKUE MFON|3NGKUENZEUM|3NIKA|3NJAM|3NKAARAE|3NKINDI|3NSHA|3NSHIEE|3NTAP|4MFAA",
  "4NTAA|3NTOQPEN|3NYET|3NYI|3NYIT MONGKEUAEQ|3NZA MFON|3NZUN MEUT|3PA LEERAEWA|3PAAM|3PAARAE",
  "3PAMSHAE|3PASHAE|3PET|3PON MFON PIPAEMBA|5PIPAEMGBIEE|4PA NJI PIPAEMBA|6PIPAEMGBIEE|3PUP|3ROM",
  "3SEUNYAM|3SHINDA PA NJI|3SHIRAE|3SHOQ NSHUT YUM|3SHUENSHUET|3SHUM|3SISA|3SONJAM|3SOQ|3SOT|3SUU",
  "3TEUAEN|3TEUTEUWEN|3TITA MFON|3TU MAEMBA|3TUAEP|3U YUQ NAE|3UNKNOWN|3VEE|2PHASE-B FEE|3FEUX",
  "3GHEUGHEN|3GHEUGHEUAEM|3KAM|3KEUAEM|3KEUPUQ|3KEUYEUX|3KIEEM|3KIQ|3LAANAE|3LAM NSHUT NYAM|3LET",
  "3LOM NTEUM|3MA|4NJEUAENA|4NJUQA|3MBA MAELEE|3MBAARAE|3MBEURI|3MBIT MBAAKET|3MBUOQ|3MEUQ",
  "3MEUT NGGEET|3MFIYAQ|3MFON TEUAEQ|3MONTIEEN|3NDU NJAA|3NGGAAM|3NGGEU MBU|3NGGUOQ|4LARGE",
  "3NGKINDI MVOP|3NGOM|3NSEN|3NSHUET|3NTIEE SHEUOQ|3NYAEMAE|3NYI NTEUM|3PARUM|3PEESHI|3PIT",
  "3PUNGAAM|3SAKEUAE|3SET TU|3SHET NJAQ|3SHEUAEQTU|3SIEE|3SUE|3TAAM|3TU MAEMGBIEE|4NSIEE|3VEUM",
  "3WUAET|3YAFU LEERAEWA|3YEURAE|2PHASE-C BUNG|3FUE|3GBAYI|3GHAP|3GHARAE|3KAA|3KEN FATIGUE|4LAW",
  "3KET|3KEUKAQ|3KEUM|3KEUSEUX|3KEUSHEUAEP|3KPARAQ|3KUOP NKAARAE|3KUT|3LAM|3LAP|3LIQ|3LU",
  "3MA KEUAERI|4NSIEE|3MAEMBA|3MAESI|3MBAA CABBAGE-TREE|4PICKET|3MBANYI|3MBEEKEET|3MBERAE|3MBEUM",
  "3MBEUX|3MBI|3MBIRIEEN|3MBIT|3MBUAEM|3MBUE|3MGBASAQ|3MIEE|3MUAE|3NANSANAQ|3NAQ|3NDAM|3NDAP",
  "3NDEUAEREE|3NDEUT|3NDIDA|3NDOMBU|3NGAQ|3NGGEN|3NGGU|3NGGUAEN NYAM|3NGGUEET|3NGGUM|3NGGUON",
  "3NGKAQ|3NGKUE MAEMBA|3NGOM|3NJAEM|3NJAM|3NJEEEE|3NJEUX|3NJUEQ|3NSA|3NSEUAEN|3NSHAQ|3NSOM|3NSUN",
  "3NSUOT NGOM|3NTAA|3NTEN|3NTEUNGBA|3NTU MBIT|3NYIR MKPARAQ MEUN|3NZA|3NZEUM|3PEN|3PIN|3PIRIEEN",
  "3RU|3SETFON|3SEUX|3SHIQ|3SHUEQ|3SUAET|3TAASHAE|3TET|3TEUTEUX|3TITA YUE|3TITUAEP|3VEUAEPEN|3VEUX",
  "3WANGKUOQ|3WUP|3YAA|3YEUQ|3YU MUOMAE|3YUM|3YUWOQ|2PHASE-D FAA|3FEUFEUAET|3GHAA|3GHEUAE|3KET",
  "3KEUAETMEUN|3KEUM|3KEUOT MBUAE|3KEUP|3KU|3KUN|3KUOM|3KUQ|3KWAET|3KYEE|3LEEEE|3LET|3LEUAEP|3LEUM",
  "3LIEE|3LOQ|3LUM|3M|3MAENJET|3MALEERI|3MBAA|4SEVEN|3MBUO|3MEEEE|3MEUN|3MEUT|3MFEUAE|3MFEUT",
  "3MFIEE|3MFO|3MFON|3MGBEUN|3MGBIEE|3MGBOFUM|3MONI|3MU|3MVOP|3NDAM|3NDEE|3NDEUX|3NDON|3NGGAAM",
  "3NGGAAMAE|3NGGAP|3NGGEUX|3NGGUOM|3NGGWAEN|3NGKAP|3NGKEUAEQ|3NGKEURI|3NGKIEE|3NGKUN|3NGKYEE|3NI",
  "3NJAP|3NJEUAEM|3NJEUT|3NJI|3NJIEE|3NJUEQ|3NSHEE|3NSHUT|3NSIEEP|3NSIEET|3NSUM|3NTEE|3NTEUM|3NTUU",
  "3NU|3NYAM|3NYET|3NYI|3NYUE|3PAP|3PEE|3PEUTAE|3PIP|3PUQ|3PUUT|3RAEM|3REN MUCH|4OLD|3RII|3SAP",
  "3SAQ|3SEUAEQ|3SHEE|3SHEUAE|3SHEUX|3SHII|3SHOQ|3SHU|3SOT|3SUAE|3SUE|3SUU|3TAE|3TEEEE|3TEUAEN",
  "3TEUN|3TEUT|3TI|3TOQ|3TU|3TUOT|3WAP|3WUAEN|3YAEMMAE|3YEN|3YUOM|3YUOP|3YUWOQ|2PHASE-E A|3FA|3FAQ",
  "3FEE|3FOM|3FU CALL|4I|4REMEDY|3FUE|3FUET|3GBET|3GBEUX|3GHAAMAE|3GHET|3GHEUAE|3GHEUN|3GHEUX",
  "3GHOM|3I|3KET|3KEUAE|3KEUX|3KI|3KO|3KPEUX|3KUET|3KUOP|3KUT|3LAAM|3LAP|3LAQ|3LEUAEM|3LOM|3LOON",
  "3LOOT|3LOQ|3LU|3MA|3MAE|3MAEM|3MAP|3MAQ|3MBEE|3MBEUM|3MEN|3MFEUQ|3MGBA|3MGBEN|3MI|3MIEE|3MON",
  "3MUAE|3MVI|3NA|3NAE|3NDAA MY HOUSE|4SOFTNESS|3NDAP|3NDIAQ|3NDIQ|3NDUN|3NGA|3NGEUREUT|3NGGEEEE",
  "3NGGEUAE|3NGGEUAET|3NGGUAESHAE NYAM|3NGGUP|3NGGURAE|3NGKA|3NGKAAMI|3NGKEUAEM|3NGKEUX|3NGKUM",
  "3NGKUP|3NGOP|3NGOQ|3NGUAE|3NGUAET|3NJAEMLI|3NJEE|4EPOCH|3NJEUX|3NKOM|3NSHIEE|3NSHUE|3NSHUOP",
  "3NTAP|3NTUM|3NYI BETWEEN|4CLEAVER|3NZAQ|3NZUQ|3O|3PA PEOPLE|4PLURAL|3PAA|3PAAM|3PEEM|3PEUT",
  "3PEUX|3PI|3PIEEQ|3PIET|3PO|3POON|3PU|3PUAE|3PUAQ|3PUE|3PUM|3RAE|3RAQ|3REUX|3RIMGBA|3SAA|3SEE",
  "3SET|3SHEUAEQ|3SHIQ|3SHO|3SHOQ|3SOM|3SUAEN|3TAA|3TAAQ|3TAEN NTEUM|3TAM|3TAQ|3TEN|3TEU|3TEUAEQ",
  "3TOO|3TOON|3TOQ|3TUAE|3TUM|3TUMAE|3VEE|3VEUAE|3VOM|3WEUX|3WUE|3WUO|3YAP|3YEUAE|3YEUAET|3YEUM",
  "3YEUX|3YIEE|3YIT|3YOQ COVER|4SWIMMING|3YUAEN|3YUEQ|3YUN|3YUQ|2PHASE-F EE|3FOM|3KA|3KEN|3KET|3KO",
  "3KPA|3KU|3KYEE|3LA|3LI|3LOQ|3M|3MA|3MBAA|3MBEN|3MEEEE|3MO|3NDAA|3NGGA|3NGKWAEN|3NI|3NJAEM",
  "3NJUAE|3NSHA|3NTEE|3NU|3NUAE|3NYI|3PEE|3PEUX|3PUAE|3REE|3REN|3REUX|3RIEE|3RII|3RU|3SAMBA|3SEUX",
  "3SHII|3SHO|3SHU|3SI|3SUU|3TAA|3TAE|3TET|3U|3VUEQ|3WA|3WUE|3YA|3YOQ|2PI|2PUAE|2PUE|2RAE|2REE",
  "2REN|2REUX|2RIEE|2RII|2RU|2SAMBA|2SEUX|2SHEUX|2SHII|2SHO|2SHU|2SI|2SUU|2TAA|2TAE|2TEN|2TET|2TI",
  "2U|2WA|2WUE|2YA|2YOQ|2YUQ|1NJAEMLI|1QUESTION MARK|1SEMICOLON|0BANANA|0BANJO|0BANK",
  "0BANKNOTE WITH DOLLAR SIGN|2EURO SIGN|2POUND SIGN|2YEN SIGN|0BAR CHART|1OF SOAP|0BARBER POLE",
  "0BASEBALL|0BASKET|0BASKETBALL AND HOOP|0BASSA VAH COMBINING HIGH TONE|3HIGH-LOW TONE|3LOW TONE",
  "3LOW-MID TONE|3MID TONE|2FULL STOP|2LETTER A|3BA|3CE|3DHII|3DO|3E|3EE|3ENNI|3FA|3GAH|3GBU|3HWAH",
  "3I|3JO|3KA|3KPAH|3MBE|3O|3OO|3PA|3SE|3TO|3U|3UWU|3VU|3WA|3WADDA|3YEIN|3YIE|3ZO|0BAT",
  "0BATAK CONSONANT SIGN H|3NG|1LETTER A|2BA|2CA|2DA|2GA|2HA|2I|2JA|2KARO BA|2LA|2MA",
  "2MANDAILING HA|3NA|3SA|2MBA|2NA|2NDA|2NGA|2NORTHERN TA|2NYA|2PA|2PAKPAK WA|2RA|2SA",
  "2SIMALUNGUN A|3GA|3HA|3LA|3MA|3PA|3RA|3SA|3WA|3YA|2SOUTHERN TA|2U|2WA|2YA|1PANGOLAT|1PANONGONAN",
  "1SIGN TOMPI|1SYMBOL BINDU JUDUL|3NA METEK|3PANGOLAT|3PINARBORAS|1VOWEL SIGN E|3EE|3I|3KARO I|4O",
  "3O|3PAKPAK E|3U|4FOR SIMALUNGUN SA|0BATH|0BATHTUB|0BATTERY|0BEACH WITH UMBRELLA",
  "0BEAMED ASCENDING MUSICAL NOTES|1DESCENDING MUSICAL NOTES|1EIGHTH NOTES|1SIXTEENTH NOTES|0BEANS",
  "0BEAR FACE|0BEARDED PERSON|0BEATING HEART|0BEAVER|0BECAUSE|0BED|0BEER MUG|0BEETLE|0BEL|0BELL",
  "1PEPPER|1SYMBOL|1WITH CANCELLATION STROKE|0BELLHOP BELL|0BENGALI ABBREVIATION SIGN|1ANJI",
  "1AU LENGTH MARK|1CURRENCY DENOMINATOR SIXTEEN|2NUMERATOR FOUR|3ONE|4LESS THAN THE DENOMINATOR",
  "3THREE|3TWO|1DIGIT EIGHT|2FIVE|2FOUR|2NINE|2ONE|2SEVEN|2SIX|2THREE|2TWO|2ZERO|1GANDA MARK",
  "1ISSHAR|1LETTER A|2AA|2AI|2AU|2BA|2BHA|2CA|2CHA|2DA|2DDA|2DDHA|2DHA|2E|2GA|2GHA|2HA|2I|2II|2JA",
  "2JHA|2KA|2KHA|2KHANDA TA|2LA|2MA|2NA|2NGA|2NNA|2NYA|2O|2PA|2PHA|2RA|3WITH LOWER DIAGONAL",
  "4MIDDLE DIAGONAL|2RHA|2RRA|2SA|2SHA|2SSA|2TA|2THA|2TTA|2TTHA|2U|2UU|2VEDIC ANUSVARA|2VOCALIC L",
  "3LL|3R|3RR|2YA|2YYA|1RUPEE MARK|2SIGN|1SANDHI MARK|1SIGN ANUSVARA|2AVAGRAHA|2CANDRABINDU|2NUKTA",
  "2VIRAMA|2VISARGA|1VOWEL SIGN AA|3AI|3AU|3E|3I|3II|3O|3U|3UU|3VOCALIC L|4LL|4R|4RR",
  "0BENT ARROW POINTING DOWNWARDS THEN NORTH EAST|0BENTO BOX|0BENZENE RING|2WITH CIRCLE",
  "0BET SYMBOL|0BETWEEN|0BEVERAGE BOX|0BHAIKSUKI DANDA|1DIGIT EIGHT|2FIVE|2FOUR|2NINE|2ONE|2SEVEN",
  "2SIX|2THREE|2TWO|2ZERO|1DOUBLE DANDA|1GAP FILLER-1|2FILLER-2|1HUNDREDS UNIT MARK|1LETTER A|2AA",
  "2AI|2AU|2BA|2BHA|2CA|2CHA|2DA|2DDA|2DDHA|2DHA|2E|2GA|2GHA|2HA|2I|2II|2JA|2JHA|2KA|2KHA|2LA|2MA",
  "2NA|2NGA|2NNA|2NYA|2O|2PA|2PHA|2RA|2SA|2SHA|2SSA|2TA|2THA|2TTA|2TTHA|2U|2UU|2VA|2VOCALIC L|3R",
  "3RR|2YA|1NUMBER EIGHT|2EIGHTY|2FIFTY|2FIVE|2FORTY|2FOUR|2NINE|2NINETY|2ONE|2SEVEN|2SEVENTY|2SIX",
  "2SIXTY|2TEN|2THIRTY|2THREE|2TWENTY|2TWO|1SIGN ANUSVARA|2AVAGRAHA|2CANDRABINDU|2VIRAMA|2VISARGA",
  "1VOWEL SIGN AA|3AI|3AU|3E|3I|3II|3O|3U|3UU|3VOCALIC L|4R|4RR|1WORD SEPARATOR|0BICYCLE",
  "0BICYCLIST|0BIG REVERSE SOLIDUS|1SOLIDUS|0BIKINI|0BILLED CAP|0BILLIARDS|0BIOHAZARD SIGN|0BIRD",
  "0BIRTHDAY CAKE|0BISON|0BITCOIN SIGN|0BITING LIP|0BLACK BOWTIE|1CENTRE WHITE STAR|1CHESS BISHOP",
  "3ROTATED NINETY DEGREES|4TWO HUNDRED SEVENTY DEGREES|2EQUIHOPPER|3ROTATED NINETY DEGREES|2KING",
  "3ROTATED NINETY DEGREES|4TWO HUNDRED SEVENTY DEGREES|2KNIGHT|3ROTATED FORTY-FIVE DEGREES",
  "4NINETY DEGREES|4ONE HUNDRED THIRTY-FIVE DEGREES|4THREE HUNDRED FIFTEEN DEGREES",
  "4TWO HUNDRED SEVENTY DEGREES|6TWENTY-FIVE DEGREES|2KNIGHT-BISHOP|2KNIGHT-QUEEN|2KNIGHT-ROOK",
  "2PAWN|3ROTATED NINETY DEGREES|4TWO HUNDRED SEVENTY DEGREES|2QUEEN|3ROTATED NINETY DEGREES",
  "4TWO HUNDRED SEVENTY DEGREES|2ROOK|3ROTATED NINETY DEGREES|4TWO HUNDRED SEVENTY DEGREES",
  "2TURNED BISHOP|3KING|3KNIGHT|3PAWN|3QUEEN|3ROOK|1CIRCLE|2FOR RECORD|2WITH DOWN ARROW",
  "3TWO WHITE DOTS|3WHITE DOT RIGHT|1CLUB SUIT|1CROSS ON SHIELD",
  "1CURVED DOWNWARDS AND LEFTWARDS ARROW|4RIGHTWARDS ARROW|2LEFTWARDS AND DOWNWARDS ARROW",
  "4UPWARDS ARROW|2RIGHTWARDS AND DOWNWARDS ARROW|4UPWARDS ARROW|2UPWARDS AND LEFTWARDS ARROW",
  "4RIGHTWARDS ARROW|1DIAMOND|2CENTRED|2MINUS WHITE X|2ON CROSS|2SUIT|2WITH DOWN ARROW",
  "1DOWN POINTING BACKHAND INDEX|1DOWN-POINTING DOUBLE TRIANGLE|2ISOSCELES RIGHT TRIANGLE",
  "2SMALL TRIANGLE|2TRIANGLE|1DOWNWARDS EQUILATERAL ARROWHEAD|1DRAUGHTS KING|2MAN|1DROPLET|1FLAG",
  "1FLORETTE|1FOLDER|1FOUR POINTED STAR|1HARD SHELL FLOPPY DISK|1HEART|2SUIT|1HEXAGON",
  "1HORIZONTAL ELLIPSE|1HOURGLASS|1LARGE CIRCLE|2SQUARE|1LEFT LANE MERGE|2POINTING BACKHAND INDEX",
  "3INDEX|1LEFT-POINTING DOUBLE TRIANGLE|4WITH VERTICAL BAR|2ISOSCELES RIGHT TRIANGLE|2POINTER",
  "2SMALL TRIANGLE|2TRIANGLE|1LEFTWARDS BULLET|2EQUILATERAL ARROWHEAD|1LOWER LEFT TRIANGLE",
  "2RIGHT TRIANGLE|1LOZENGE|1MEDIUM DIAMOND|2DOWN-POINTING TRIANGLE|4CENTRED",
  "2LEFT-POINTING TRIANGLE|4CENTRED|2LOZENGE|2RIGHT-POINTING TRIANGLE|4CENTRED|2SMALL DIAMOND",
  "3LOZENGE|3SQUARE|2SQUARE|2UP-POINTING TRIANGLE|4CENTRED|1MOON LILITH|1NIB|1OCTAGON",
  "1PARALLELOGRAM|1PENNANT|1PENTAGON|1PUSHPIN|1QUESTION MARK ORNAMENT|1RECTANGLE",
  "1RIGHT POINTING BACKHAND INDEX|3INDEX|1RIGHT-POINTING DOUBLE TRIANGLE|4WITH VERTICAL BAR",
  "2ISOSCELES RIGHT TRIANGLE|2PENTAGON|2POINTER|2SMALL TRIANGLE|2TRIANGLE",
  "3WITH DOUBLE VERTICAL BAR|1RIGHTWARDS ARROW|2ARROWHEAD|2BULLET|2EQUILATERAL ARROWHEAD|1ROSETTE",
  "1SAFETY SCISSORS|1SCISSORS|1SHOGI PIECE|1SKULL AND CROSSBONES|1SLIGHTLY SMALL CIRCLE|3SQUARE",
  "1SMALL DIAMOND|2LOZENGE|2SQUARE|2STAR|1SMILING FACE|1SNOWMAN|1SPADE SUIT|1SQUARE|2BUTTON",
  "2CENTRED|2FOR STOP|1STAR|1SUN WITH RAYS|1TELEPHONE|1TINY DIAMOND|2LOZENGE|2SQUARE",
  "1TOUCHTONE TELEPHONE|1TRUCK|1TWO-WAY LEFT WAY TRAFFIC|1UNIVERSAL RECYCLING SYMBOL",
  "1UP POINTING BACKHAND INDEX|1UP-POINTING DOUBLE TRIANGLE|2ISOSCELES RIGHT TRIANGLE",
  "2SMALL TRIANGLE|2TRIANGLE|1UPPER LEFT TRIANGLE|2RIGHT TRIANGLE|1UPWARDS EQUILATERAL ARROWHEAD",
  "1VERTICAL ELLIPSE|2RECTANGLE|1VERY SMALL DIAMOND|3LOZENGE|3SQUARE",
  "0BLACK-FEATHERED NORTH EAST ARROW|1RIGHTWARDS ARROW|1SOUTH EAST ARROW|0BLACK-LETTER CAPITAL C",
  "2H|2I|2R|2Z|0BLANK SYMBOL|0BLOCK SEXTANT-1|1SEXTANT-12|1SEXTANT-123|1SEXTANT-1234",
  "1SEXTANT-12345|1SEXTANT-12346|1SEXTANT-1235|1SEXTANT-12356|1SEXTANT-1236|1SEXTANT-124",
  "1SEXTANT-1245|1SEXTANT-12456|1SEXTANT-1246|1SEXTANT-125|1SEXTANT-1256|1SEXTANT-126|1SEXTANT-13",
  "1SEXTANT-134|1SEXTANT-1345|1SEXTANT-13456|1SEXTANT-1346|1SEXTANT-1356|1SEXTANT-136|1SEXTANT-14",
  "1SEXTANT-145|1SEXTANT-1456|1SEXTANT-146|1SEXTANT-15|1SEXTANT-156|1SEXTANT-16|1SEXTANT-2",
  "1SEXTANT-23|1SEXTANT-234|1SEXTANT-2345|1SEXTANT-23456|1SEXTANT-2346|1SEXTANT-235|1SEXTANT-2356",
  "1SEXTANT-236|1SEXTANT-24|1SEXTANT-245|1SEXTANT-2456|1SEXTANT-25|1SEXTANT-256|1SEXTANT-26",
  "1SEXTANT-3|1SEXTANT-34|1SEXTANT-345|1SEXTANT-3456|1SEXTANT-346|1SEXTANT-35|1SEXTANT-356",
  "1SEXTANT-36|1SEXTANT-4|1SEXTANT-45|1SEXTANT-456|1SEXTANT-46|1SEXTANT-5|1SEXTANT-56|1SEXTANT-6",
  "0BLOSSOM|0BLOWFISH|0BLUE BOOK|1HEART|0BLUEBERRIES|0BOAR|0BOLD EIGHT SPOKED ASTERISK",
  "1FIVE SPOKED ASTERISK|1GREEK CROSS|1SALTIRE|1SIX SPOKED ASTERISK|1WHITE CIRCLE|2SQUARE|0BOM",
  "0BOMB|0BONE|0BOOK|0BOOKMARK|1TABS|0BOOKS|0BOOMERANG|0BOPOMOFO FINAL LETTER G|3H|3K|3P|3T",
  "1LETTER A|2AH|2AI|2AINN|2AM|2AN|2ANG|2ANN|2AU|2AUNN|2B|2BU|2C|2CH|2D|2E|2EE|2EH|2EI|2EN|2ENG",
  "2ENN|2ER|2F|2G|2GH|2GN|2GU|2GW|2H|2I|2IH|2IM|2INN|2INNN|2IR|2IU|2J|2JI|2K|2KW|2L|2LH|2M|2N|2NG",
  "2NGG|2NN|2O|3WITH DOT ABOVE|2OE|2OM|2ONG|2ONN|2OO|2OU|2P|2Q|2R|2S|2SH|2T|2U|2UNN|2V|2X|2Z|2ZH",
  "2ZI|2ZY|0BOTTLE WITH POPPING CORK|0BOTTOM ARC ANTICLOCKWISE ARROW|1CURLY BRACKET",
  "1HALF BLACK CIRCLE|2INTEGRAL|2LEFT PARENTHESIS|2RIGHT PARENTHESIS|1LEFT CORNER|2CROP",
  "2HALF BRACKET|1PARENTHESIS|1RIGHT CORNER|2CROP|2HALF BRACKET|1SQUARE BRACKET",
  "3OVER TOP SQUARE BRACKET|1TORTOISE SHELL BRACKET|0BOUQUET|1OF FLOWERS|0BOW AND ARROW",
  "0BOWL OF HYGIEIA|1WITH SPOON|0BOWLING|0BOWTIE|1WITH LEFT HALF BLACK|2RIGHT HALF BLACK",
  "0BOX DRAWINGS DOUBLE DOWN AND HORIZONTAL|5LEFT|5RIGHT|3HORIZONTAL|3UP AND HORIZONTAL|5LEFT",
  "5RIGHT|3VERTICAL|4AND HORIZONTAL|5LEFT|5RIGHT|2DOWN DOUBLE AND HORIZONTAL SINGLE|5LEFT SINGLE",
  "5RIGHT SINGLE|3HEAVY AND HORIZONTAL LIGHT|5LEFT LIGHT|6UP LIGHT|5RIGHT LIGHT|6UP LIGHT",
  "5UP HORIZONTAL LIGHT|3LIGHT AND HORIZONTAL HEAVY|5LEFT HEAVY|6UP HEAVY|5RIGHT HEAVY|6UP HEAVY",
  "5UP HORIZONTAL HEAVY|3SINGLE AND HORIZONTAL DOUBLE|5LEFT DOUBLE|5RIGHT DOUBLE",
  "2HEAVY DOUBLE DASH HORIZONTAL|5VERTICAL|3DOWN|4AND HORIZONTAL|5LEFT|5RIGHT|3HORIZONTAL|3LEFT",
  "4AND LIGHT RIGHT|3QUADRUPLE DASH HORIZONTAL|5VERTICAL|3RIGHT|3TRIPLE DASH HORIZONTAL|5VERTICAL",
  "3UP|4AND HORIZONTAL|5LEFT|5LIGHT DOWN|5RIGHT|3VERTICAL|4AND HORIZONTAL|5LEFT|5RIGHT",
  "2LEFT DOWN HEAVY AND RIGHT UP LIGHT|3HEAVY AND RIGHT DOWN LIGHT|6UP LIGHT|6VERTICAL LIGHT",
  "3LIGHT AND RIGHT DOWN HEAVY|6UP HEAVY|6VERTICAL HEAVY|3UP HEAVY AND RIGHT DOWN LIGHT",
  "2LIGHT ARC DOWN AND LEFT|6RIGHT|4UP AND LEFT|6RIGHT|3DIAGONAL CROSS|4DIAMOND",
  "4MIDDLE LEFT TO LOWER CENTRE|9TO MIDDLE RIGHT|7UPPER CENTRE TO MIDDLE RIGHT|cTO LOWER CENTRE",
  "5RIGHT TO LOWER CENTRE|7UPPER CENTRE TO MIDDLE LEFT TO LOWER CENTRE",
  "4UPPER CENTRE TO MIDDLE LEFT|9AND MIDDLE RIGHT TO LOWER CENTRE|9TO LOWER CENTRE",
  "cTO MIDDLE RIGHT|8RIGHT|9AND MIDDLE LEFT TO LOWER CENTRE|9TO LOWER CENTRE|cTO MIDDLE LEFT",
  "5LEFT TO LOWER RIGHT|5RIGHT TO LOWER LEFT|3DOUBLE DASH HORIZONTAL|5VERTICAL|3DOWN",
  "4AND HORIZONTAL|5LEFT|5RIGHT|3HORIZONTAL|4WITH VERTICAL STROKE|3LEFT|4AND HEAVY RIGHT",
  "3QUADRUPLE DASH HORIZONTAL|5VERTICAL|3RIGHT|3TRIPLE DASH HORIZONTAL|5VERTICAL|3UP",
  "4AND HEAVY DOWN|5HORIZONTAL|5LEFT|5RIGHT|3VERTICAL|4AND HORIZONTAL|5LEFT|5RIGHT",
  "2RIGHT DOWN HEAVY AND LEFT UP LIGHT|3HEAVY AND LEFT DOWN LIGHT|6UP LIGHT|6VERTICAL LIGHT",
  "3LIGHT AND LEFT DOWN HEAVY|6UP HEAVY|6VERTICAL HEAVY|3UP HEAVY AND LEFT DOWN LIGHT",
  "2UP DOUBLE AND HORIZONTAL SINGLE|5LEFT SINGLE|5RIGHT SINGLE|3HEAVY AND DOWN HORIZONTAL LIGHT",
  "5HORIZONTAL LIGHT|5LEFT DOWN LIGHT|6LIGHT|5RIGHT DOWN LIGHT|6LIGHT",
  "3LIGHT AND DOWN HORIZONTAL HEAVY|5HORIZONTAL HEAVY|5LEFT DOWN HEAVY|6HEAVY|5RIGHT DOWN HEAVY",
  "6HEAVY|3SINGLE AND HORIZONTAL DOUBLE|5LEFT DOUBLE|5RIGHT DOUBLE",
  "2VERTICAL DOUBLE AND HORIZONTAL SINGLE|5LEFT SINGLE|5RIGHT SINGLE|3HEAVY AND HORIZONTAL LIGHT",
  "5LEFT LIGHT|5RIGHT LIGHT|3LIGHT AND HORIZONTAL HEAVY|5LEFT HEAVY|5RIGHT HEAVY",
  "3SINGLE AND HORIZONTAL DOUBLE|5LEFT DOUBLE|5RIGHT DOUBLE|0BOXING GLOVE|0BOY|0BOYS SYMBOL|0BPH",
  "0BRAHMI DANDA|1DIGIT EIGHT|2FIVE|2FOUR|2NINE|2ONE|2SEVEN|2SIX|2THREE|2TWO|2ZERO|1DOUBLE DANDA",
  "1LETTER A|2AA|2AI|2AU|2BA|2BHA|2CA|2CHA|2DA|2DDA|2DDHA|2DHA|2E|2GA|2GHA|2HA|2I|2II|2JA|2JHA|2KA",
  "2KHA|2LA|2LLA|2MA|2NA|2NGA|2NNA|2NYA|2O|2OLD TAMIL LLA|4LLLA|4NNNA|4RRA|4SHORT E|5O|2PA|2PHA",
  "2RA|2SA|2SHA|2SSA|2TA|2THA|2TTA|2TTHA|2U|2UU|2VA|2VOCALIC L|3LL|3R|3RR|2YA|1NUMBER EIGHT",
  "2EIGHTY|2FIFTY|2FIVE|2FORTY|2FOUR|2JOINER|2NINE|2NINETY|2ONE|3HUNDRED|3THOUSAND|2SEVEN|2SEVENTY",
  "2SIX|2SIXTY|2TEN|2THIRTY|2THREE|2TWENTY|2TWO|1PUNCTUATION CRESCENT BAR|2DOT|2DOUBLE DOT|2LINE",
  "2LOTUS|1SIGN ANUSVARA|2CANDRABINDU|2JIHVAMULIYA|2OLD TAMIL VIRAMA|2UPADHMANIYA|2VISARGA|1VIRAMA",
  "1VOWEL SIGN AA|3AI|3AU|3BHATTIPROLU AA|3E|3I|3II|3O|3OLD TAMIL SHORT E|6O|3U|3UU|3VOCALIC L|4LL",
  "4R|4RR|0BRAILLE PATTERN BLANK|2DOTS-1|2DOTS-12|2DOTS-123|2DOTS-1234|2DOTS-12345|2DOTS-123456",
  "2DOTS-1234567|2DOTS-12345678|2DOTS-1234568|2DOTS-123457|2DOTS-1234578|2DOTS-123458|2DOTS-12346",
  "2DOTS-123467|2DOTS-1234678|2DOTS-123468|2DOTS-12347|2DOTS-123478|2DOTS-12348|2DOTS-1235",
  "2DOTS-12356|2DOTS-123567|2DOTS-1235678|2DOTS-123568|2DOTS-12357|2DOTS-123578|2DOTS-12358",
  "2DOTS-1236|2DOTS-12367|2DOTS-123678|2DOTS-12368|2DOTS-1237|2DOTS-12378|2DOTS-1238|2DOTS-124",
  "2DOTS-1245|2DOTS-12456|2DOTS-124567|2DOTS-1245678|2DOTS-124568|2DOTS-12457|2DOTS-124578",
  "2DOTS-12458|2DOTS-1246|2DOTS-12467|2DOTS-124678|2DOTS-12468|2DOTS-1247|2DOTS-12478|2DOTS-1248",
  "2DOTS-125|2DOTS-1256|2DOTS-12567|2DOTS-125678|2DOTS-12568|2DOTS-1257|2DOTS-12578|2DOTS-1258",
  "2DOTS-126|2DOTS-1267|2DOTS-12678|2DOTS-1268|2DOTS-127|2DOTS-1278|2DOTS-128|2DOTS-13|2DOTS-134",
  "2DOTS-1345|2DOTS-13456|2DOTS-134567|2DOTS-1345678|2DOTS-134568|2DOTS-13457|2DOTS-134578",
  "2DOTS-13458|2DOTS-1346|2DOTS-13467|2DOTS-134678|2DOTS-13468|2DOTS-1347|2DOTS-13478|2DOTS-1348",
  "2DOTS-135|2DOTS-1356|2DOTS-13567|2DOTS-135678|2DOTS-13568|2DOTS-1357|2DOTS-13578|2DOTS-1358",
  "2DOTS-136|2DOTS-1367|2DOTS-13678|2DOTS-1368|2DOTS-137|2DOTS-1378|2DOTS-138|2DOTS-14|2DOTS-145",
  "2DOTS-1456|2DOTS-14567|2DOTS-145678|2DOTS-14568|2DOTS-1457|2DOTS-14578|2DOTS-1458|2DOTS-146",
  "2DOTS-1467|2DOTS-14678|2DOTS-1468|2DOTS-147|2DOTS-1478|2DOTS-148|2DOTS-15|2DOTS-156|2DOTS-1567",
  "2DOTS-15678|2DOTS-1568|2DOTS-157|2DOTS-1578|2DOTS-158|2DOTS-16|2DOTS-167|2DOTS-1678|2DOTS-168",
  "2DOTS-17|2DOTS-178|2DOTS-18|2DOTS-2|2DOTS-23|2DOTS-234|2DOTS-2345|2DOTS-23456|2DOTS-234567",
  "2DOTS-2345678|2DOTS-234568|2DOTS-23457|2DOTS-234578|2DOTS-23458|2DOTS-2346|2DOTS-23467",
  "2DOTS-234678|2DOTS-23468|2DOTS-2347|2DOTS-23478|2DOTS-2348|2DOTS-235|2DOTS-2356|2DOTS-23567",
  "2DOTS-235678|2DOTS-23568|2DOTS-2357|2DOTS-23578|2DOTS-2358|2DOTS-236|2DOTS-2367|2DOTS-23678",
  "2DOTS-2368|2DOTS-237|2DOTS-2378|2DOTS-238|2DOTS-24|2DOTS-245|2DOTS-2456|2DOTS-24567",
  "2DOTS-245678|2DOTS-24568|2DOTS-2457|2DOTS-24578|2DOTS-2458|2DOTS-246|2DOTS-2467|2DOTS-24678",
  "2DOTS-2468|2DOTS-247|2DOTS-2478|2DOTS-248|2DOTS-25|2DOTS-256|2DOTS-2567|2DOTS-25678|2DOTS-2568",
  "2DOTS-257|2DOTS-2578|2DOTS-258|2DOTS-26|2DOTS-267|2DOTS-2678|2DOTS-268|2DOTS-27|2DOTS-278",
  "2DOTS-28|2DOTS-3|2DOTS-34|2DOTS-345|2DOTS-3456|2DOTS-34567|2DOTS-345678|2DOTS-34568|2DOTS-3457",
  "2DOTS-34578|2DOTS-3458|2DOTS-346|2DOTS-3467|2DOTS-34678|2DOTS-3468|2DOTS-347|2DOTS-3478",
  "2DOTS-348|2DOTS-35|2DOTS-356|2DOTS-3567|2DOTS-35678|2DOTS-3568|2DOTS-357|2DOTS-3578|2DOTS-358",
  "2DOTS-36|2DOTS-367|2DOTS-3678|2DOTS-368|2DOTS-37|2DOTS-378|2DOTS-38|2DOTS-4|2DOTS-45|2DOTS-456",
  "2DOTS-4567|2DOTS-45678|2DOTS-4568|2DOTS-457|2DOTS-4578|2DOTS-458|2DOTS-46|2DOTS-467|2DOTS-4678",
  "2DOTS-468|2DOTS-47|2DOTS-478|2DOTS-48|2DOTS-5|2DOTS-56|2DOTS-567|2DOTS-5678|2DOTS-568|2DOTS-57",
  "2DOTS-578|2DOTS-58|2DOTS-6|2DOTS-67|2DOTS-678|2DOTS-68|2DOTS-7|2DOTS-78|2DOTS-8|0BRAIN|0BREAD",
  "0BREAK PERMITTED HERE|0BREAST-FEEDING|0BREVE|0BRICK|0BRIDE WITH VEIL|0BRIDGE AT NIGHT",
  "0BRIEFCASE|0BRIEFS|0BROCCOLI|0BROKEN BAR|1CIRCLE WITH NORTHWEST ARROW|1HEART|0BROOM",
  "0BROWN HEART|0BS|0BUBBLE TEA|0BUBBLES|0BUCKET|0BUG|0BUGINESE END OF SECTION|1LETTER A|2BA|2CA",
  "2DA|2GA|2HA|2JA|2KA|2LA|2MA|2MPA|2NA|2NGA|2NGKA|2NRA|2NYA|2NYCA|2PA|2RA|2SA|2TA|2VA|2YA",
  "1PALLAWA|1VOWEL SIGN AE|3E|3I|3O|3U|0BUHID LETTER A|2BA|2DA|2GA|2HA|2I|2KA|2LA|2MA|2NA|2NGA|2PA",
  "2RA|2SA|2TA|2U|2WA|2YA|1VOWEL SIGN I|3U|0BUILDING CONSTRUCTION|0BULLET|1OPERATOR|0BULLHORN",
  "1WITH SOUND WAVES|0BULLSEYE|0BURRITO|0BUS|1STOP|0BUST IN SILHOUETTE|0BUSTS IN SILHOUETTE",
  "0BUTTER|0BUTTERFLY|0BYTE ORDER MARK|0BYZANTINE MUSICAL SYMBOL AGOGI ARGI|4ARGOTERI|4GORGI",
  "4GORGOTERI|4MESI|4METRIA|4POLI ARGI|5GORGI|3ANATRICHISMA|3ANTIKENOKYLISMA|3ANTIKENOMA",
  "3APESO EKFONITIKON|4EXO NEO|3APLI|3APODERMA ARCHAION|4NEO|3APOSTROFOI SYNDESMOS NEO",
  "4TELOUS ICHIMATOS|3APOSTROFOS|4DIPLI|4NEO|3APOTHEMA|3ARGON|3ARGOSYNTHETON|3ARKTIKO DI|4GA|4KE",
  "4NI|4PA|4VOU|4ZO|3CHAMILI|3CHAMILON|3CHOREVMA ARCHAION|4NEO|3CHROA KLITON|4SPATHI|4ZYGOS",
  "3DASEIA|3DIARGON|3DIASTOLI APLI MEGALI|5MIKRI|4DIPLI|4THESEOS|3DIESIS APLI DYO DODEKATA",
  "4DIGRAMMOS EX DODEKATA|4MONOGRAMMOS TESSERA DODEKATA|4TETARTIMORION|4TRIGRAMMOS OKTO DODEKATA",
  "4TRITIMORION|3DIFTOGGOS OU|3DIGORGON|4PARESTIGMENON ARISTERA ANO|6KATO|5DEXIA|3DIGRAMMA GG",
  "3DIPLI|4ARCHAION|3DYO|3EKSTREPTON|3ELAFRON|3ENARXIS KAI FTHORA VOU|3ENDOFONON|3EPEGERMA",
  "3ETERON ARGOSYNTHETON|4PARAKALESMA|3EXO EKFONITIKON|3FANEROSIS DIFONIAS|4MONOFONIAS",
  "4TETRAFONIAS|3FHTORA SKLIRON CHROMA VASIS|3FTHORA ARCHAION|5DEYTEROU ICHOU|4DIATONIKI DI|5KE",
  "5NANA|5NI ANO|6KATO|5PA|5ZO|4ENARMONIOS ANTIFONIA|4I YFESIS TETARTIMORION",
  "4MALAKON CHROMA DIFONIAS|6MONOFONIAS|4NAOS ICHOS|4NENANO|4SKLIRON CHROMA SYNAFI|6VASIS",
  "5DIATONON DI|3GENIKI DIESIS|4YFESIS|3GORGON ARCHAION|4NEO ANO|5KATO|4PARESTIGMENON ARISTERA",
  "5DEXIA|3GORGOSYNTHETON|3GORTHMIKON N APLOUN|5DIPLOUN|3GRONTHISMATA|3ICHADIN|3IMIDIARGON",
  "3IMIFONON|3IMIFTHORA|3IMIFTHORON|3ISAKIA TELOUS ICHIMATOS|3ISON ARCHAION|4NEO|3KATAVA TROMIKON",
  "3KATAVASMA|3KATHISTI|3KENTIMA ARCHAION|4NEO ANO|5KATO|5MESO|3KENTIMATA|4ARCHAION|4NEO ANO|5KATO",
  "5MESO|3KLASMA|4ANO|4KATO|3KONTEVMA|4ALLO|3KORONIS|3KOUFISMA|3KRATIMA ALLO|4ARCHAION|4NEO",
  "3KRATIMATA|3KRATIMOKOUFISMA|3KRATIMOYPORROON|3KREMASTI|3KYLISMA|3LEIMMA DYO CHRONON",
  "4ENOS CHRONOU|4IMISEOS CHRONOU|4TESSARON CHRONON|4TRION CHRONON|3LEMOI|3LYGISMA",
  "3MARTYRIA ALLI DEYTEROS ICHOS|5PROTOS ICHOS|4DEYTEROS ICHOS|4LEGETOS ICHOS|4PLAGIOS ICHOS",
  "5TETARTOS ICHOS|4PROTOS ICHOS|4PROTOVARYS ICHOS|4TETARTOS ICHOS|5LEGETOS ICHOS|4TRIFONIAS",
  "4TRITOS ICHOS|4VARYS ICHOS|3MIKRON ISON|3NANA|3OLIGON ARCHAION|4NEO|3OMALON|3OXEIA DIPLI",
  "4EKFONITIKON|4NEO|3OXEIAI ARCHAION|3OYRANISMA ARCHAION|4NEO|3PARAKALESMA ARCHAION|4NEO",
  "3PARAKLITIKI|4ARCHAION|4NEO|3PARICHON|3PELASTON|4NEO|3PERISPOMENI|3PETASMA|3PETASTI",
  "3PETASTOKOUFISMA|3PIASMA ARCHAION|4NEO|3PSIFISTOLYGISMA|3PSIFISTON|4NEO|3PSIFISTOPARAKALESMA",
  "3PSIFISTOSYNAGMA|3PSILI|3PSILON|3RAPISMA|3REVMA|3SAXIMATA|3SEISMA|4NEO|3SIMANSIS ARSEOS",
  "5DISIMOU|5TETRASIMOU|5TRISIMOU|4THESEOS|5DISIMOU|5TETRASIMOU|5TRISIMOU|3STAVROS|4APODEXIA",
  "3STIGMA|3STRAGGISMATA|3SYNAGMA ARCHAION|4META STAVROU|4NEO|3SYNEVMA|3SYRMA|3SYRMATIKI|3TELEIA",
  "3TESSERA|3TETRAPLI|3THEMA|4APLOUN|3THEMATISMOS ESO|4EXO|3THES KAI APOTHES|3THITA|3TINAGMA|3TRIA",
  "3TRIGORGON|3TRIPLI|3TROMIKOLYGISMA|3TROMIKON ALLO|4ARCHAION|4NEO|3TROMIKOPARAKALESMA",
  "3TROMIKOPSIFISTON|3TROMIKOSYNAGMA|3VAREIA DIPLI|4EKFONITIKON|4NEO|3VAREIAI ARCHAION|3VATHY",
  "3XIRON KLASMA|3YFEN ANO|4KATO|3YFESIS APLI DYO DODEKATA|4DIGRAMMOS EX DODEKATA",
  "4MONOGRAMMOS TESSERA DODEKATA|4TRIGRAMMOS OKTO DODEKATA|4TRITIMORION|3YPOKRISIS|4DIPLI|3YPORROI",
  "3YPSILI"]

def namesFromC : List String := [
  "0CACTUS|0CADA UNA|0CADUCEUS|0CALENDAR|0CALL ME HAND|0CAMERA|1WITH FLASH|0CAMPING|0CAN",
  "0CANADIAN SYLLABICS A|2AA|2AAI|2AAY|2AI|2AIVILIK B|2AN|2ATHAPASCAN M|3S|2AY|2BEAVER DENE L|4R",
  "2BIBLE-CREE Y|2BLACKFOOT A|3E|3I|3KA|3KE|3KI|3KO|3NA|3NE|3NI|3NO|3O|3S|3W|3WA|3WE|3WI|3WO|2C",
  "2CA|2CAA|2CAAI|2CARRIER CHA|3CHE|3CHEE|3CHI|3CHO|3CHU|3DEE|3DENE GEE|3DENTAL S|3DI|3DLA|3DLE",
  "3DLEE|3DLI|3DLO|3DLU|3DZA|3DZE|3DZEE|3DZI|3DZO|3DZU|3EE|3GA|3GAA|3GE|3GEE|3GHA|3GHE|3GHEE|3GHI",
  "3GHO|3GHU|3GI|3GO|3GU|3GWA|3GWU|3H|3HEE|3HI|3HWA|3HWE|3HWEE|3HWI|3HWO|3HWU|3I|3INITIAL Z|3JA",
  "3JE|3JEE|3JI|3JJA|3JJE|3JJEE|3JJI|3JJO|3JJU|3JO|3JU|3JWA|3KHA|3KHE|3KHEE|3KHI|3KHO|3KHU|3KK",
  "3KKA|3KKE|3KKEE|3KKI|3KKO|3KKU|3LA|3LE|3LEE|3LHA|3LHE|3LHEE|3LHI|3LHO|3LHU|3LI|3LO|3LU|3MA|3ME",
  "3MEE|3MI|3MO|3MU|3NA|3NE|3NEE|3NG|3NI|3NO|3NU|3P|3PA|3PE|3PEE|3PI|3PO|3PU|3RA|3RE|3REE|3RI|3RO",
  "3RU|3SA|3SE|3SEE|3SH|3SHA|3SHE|3SHEE|3SHI|3SHO|3SHU|3SI|3SO|3SU|3THA|3THE|3THEE|3THI|3THO|3THU",
  "3TLA|3TLE|3TLEE|3TLHA|3TLHE|3TLHEE|3TLHI|3TLHO|3TLHU|3TLI|3TLO|3TLU|3TSA|3TSE|3TSEE|3TSI|3TSO",
  "3TSU|3TTA|3TTE|3TTEE|3TTI|3TTO|3TTSA|3TTSE|3TTSEE|3TTSI|3TTSO|3TTSU|3TTU|3WA|3WE|3WEE|3WI|3WO",
  "3WU|3YA|3YE|3YEE|3YI|3YO|3YU|3Z|3ZA|3ZE|3ZEE|3ZI|3ZO|3ZU|2CE|2CHI SIGN|2CI|2CII|2CO|2COO|2CWA",
  "2CWAA|2CWE|2CWI|2CWII|2CWO|2CWOO|2E|2EASTERN W|2EN|2F|2FA|2FAA|2FAAI|2FE|2FI|2FII|2FINAL ACUTE",
  "3BOTTOM HALF RING|3DOUBLE ACUTE|4SHORT VERTICAL STROKES|3DOWN TACK|3GRAVE|3MIDDLE DOT|3PLUS",
  "3RAISED DOT|3RIGHT HALF RING|3RING|3SHORT HORIZONTAL STROKE|3SMALL RING|3TOP HALF RING|2FO|2FOO",
  "2FULL STOP|2FWAA|2GLOTTAL STOP|2HK|2HYPHEN|2I|2II|2IN|2K|2KA|2KAA|2KAAI|2KAY|2KE|2KI|2KII|2KO",
  "2KOO|2KW|2KWA|2KWAA|2KWAY|2KWE|2KWI|2KWII|2KWO|2KWOO|2L|2LA|2LAA|2LAAI|2LAY|2LE|2LH|2LHA|2LHAA",
  "2LHI|2LHII|2LHO|2LHOO|2LI|2LII|2LO|2LOO|2LWA|2LWAA|2LWE|2LWI|2LWII|2LWO|2LWOO|2M|2MA|2MAA|2MAAI",
  "2MAY|2ME|2MEDIAL L|3R|2MH|2MI|2MII|2MO|2MOO|2MOOSE-CREE SK|2MWA|2MWAA|2MWE|2MWI|2MWII|2MWO",
  "2MWOO|2N|2N-CREE THE|3THI|3THII|2NA|2NAA|2NAAI|2NASKAPI CWAA|3KWAA|3MWAA|3NWAA|3S-W|3SCWA|3SKW",
  "3SKWA|3SPWA|3STWA|3SWAA|3TWAA|3WAA|3WOO|3YWAA|2NATTILIK HA|3HAA|3HI|3HII|3HO|3HOO|3SHRA|3SHRAA",
  "3SHRI|3SHRII|3SHRO|3SHROO|2NAY|2NE|2NG|2NGA|2NGAA|2NGAAI|2NGAI|2NGI|2NGII|2NGO|2NGOO|2NH|2NI",
  "2NII|2NNG|2NNGA|2NNGAA|2NNGI|2NNGII|2NNGO|2NNGOO|2NO|2NOO|2NOY|2NUNAVIK H|3HA|3HAA|3HE|3HI|3HII",
  "3HO|3HOO|2NUNAVUT H|2NWA|2NWAA|2NWE|2NWI|2NWII|2NWO|2NWOO|2O|2OJIBWAY C|3K|3M|3N|3NWI|3NWII",
  "3NWO|3NWOO|3P|3S|3SH|3T|2ON|2OO|2OY|2P|2PA|2PAA|2PAAI|2PAY|2PE|2PI|2PII|2PO|2POO|2POY|2PWA",
  "2PWAA|2PWE|2PWI|2PWII|2PWO|2PWOO|2PWOY|2Q|2QA|2QAA|2QAAI|2QAI|2QI|2QII|2QO|2QOO|2R|2R-CREE RE",
  "3RWE|2RA|2RAA|2RAAI|2RAY|2RE|2RI|2RII|2RO|2ROO|2RWA|2RWAA|2RWEE|2RWI|2RWII|2RWO|2RWOO|2S|2SA",
  "2SAA|2SAAI|2SAY|2SAYISI HA|3HE|3HI|3HO|3HOO|3JI|3JU|3JUU|3M|3SHA|3SHE|3SHI|3SHO|3SHOO|3SHWE|3TH",
  "3YI|2SE|2SH|2SHA|2SHAA|2SHAY|2SHE|2SHI|2SHII|2SHO|2SHOO|2SHOY|2SHWA|2SHWAA|2SHWE|2SHWI|2SHWII",
  "2SHWO|2SHWOO|2SHWOY|2SI|2SII|2SO|2SOO|2SOUTH-SLAVEY KAH|3KEH|3KIH|3KOH|2SOY|2SPA|2SPE|2SPI|2SPO",
  "2SW|2SWA|2SWAA|2SWE|2SWI|2SWII|2SWO|2SWOO|2T|2TA|2TAA|2TAAI|2TAY|2TE|2TH|2TH-CREE TH|3THA|3THAA",
  "3THE|3THI|3THII|3THO|3THOO|2THA|2THAA|2THE|2THI|2THII|2THO|2THOO|2THWA|2THWAA|2THWE|2TI|2TII",
  "2TLHA|2TLHE|2TLHI|2TLHO|2TLHOO|2TLHWE|2TO|2TOO|2TTA|2TTE|2TTH|2TTHA|2TTHAA|2TTHE|2TTHI|2TTHO",
  "2TTHOO|2TTHWE|2TTI|2TTO|2TWA|2TWAA|2TWE|2TWI|2TWII|2TWO|2TWOO|2TYA|2TYE|2TYI|2TYO|2WA|2WAA|2WAY",
  "2WE|2WEST-CREE CWA|3CWAA|3CWE|3CWI|3CWII|3CWO|3CWOO|3FWAA|3KWA|3KWAA|3KWE|3KWI|3KWII|3KWO|3KWOO",
  "3L|3LA|3LAA|3LE|3LO|3LOO|3LWA|3LWAA|3LWE|3LWI|3LWII|3LWO|3LWOO|3M|3MWA|3MWAA|3MWE|3MWI|3MWII",
  "3MWO|3MWOO|3NWA|3NWAA|3NWE|3P|3PWA|3PWAA|3PWE|3PWI|3PWII|3PWO|3PWOO|3R|3RA|3RE|3RI|3RO|3RWAA",
  "3SHWA|3SHWAA|3SHWE|3SHWI|3SHWII|3SHWO|3SHWOO|3SWA|3SWAA|3SWE|3SWI|3SWII|3SWO|3SWOO|3THWAA|3TWA",
  "3TWAA|3TWE|3TWI|3TWII|3TWO|3TWOO|3WA|3WAA|3WE|3WI|3WII|3WO|3WOO|3Y|3YWA|3YWAA|3YWE|3YWI|3YWII",
  "3YWO|3YWOO|2WESTERN W|2WI|2WII|2WO|2WOO|2WOODS-CREE FINAL TH|3TH|3THA|3THE|3THI|3THO|3THWA",
  "3THWAA|3THWEE|3THWI|3THWII|3THWO|3THWOO|2Y|2Y-CREE COO|3KOO|3LOO|3MOO|3NOO|3OO|3POO|3PWAA|3SOO",
  "3TOO|3W|3YOO|2YA|2YAA|2YAAI|2YAY|2YE|2YI|2YII|2YO|2YOO|2YOY|2YWA|2YWAA|2YWE|2YWI|2YWII|2YWO",
  "2YWOO|0CANCEL|1CHARACTER|1TAG|0CANCELLATION X|0CANCER|0CANDLE|0CANDY|0CANNED FOOD|0CANOE",
  "0CAPITULUM|0CAPRICORN|0CAR SLIDING|0CARD FILE BOX|1INDEX|2DIVIDERS|0CARE OF|0CARET",
  "1INSERTION POINT|0CARIAN LETTER A|2A2|2B|2C-18|2C-39|2D|2D2|2E|2E2|2G|2G2|2I|2II|2K|2K2|2L|2LD",
  "2LD2|2M|2MB|2MB2|2MB3|2MB4|2N|2ND|2NG|2NN|2O|2P|2P2|2Q|2R|2RR|2S|2SH|2SH2|2SS|2ST|2ST2|2T|2TT",
  "2TT2|2U|2UU|2UUU|2UUU2|2UUU3|2UUUU|2X|0CARON|0CAROUSEL HORSE|0CARP STREAMER|0CARPENTRY SAW",
  "0CARRIAGE RETURN|0CARROT|0CASTLE|0CAT|1FACE|2WITH TEARS OF JOY|3WRY SMILE",
  "0CAUCASIAN ALBANIAN CITATION MARK|2LETTER ALT|3AOR|3BET|3CAR|3CAYN|3CHA|3CHAT|3CHI|3CHOY|3CYAW",
  "3CYAY|3DAT|3DYAN|3DZAY|3DZYAY|3EB|3EYN|3FAM|3GHEYS|3GIM|3HEYT|3INYA|3IRB|3IWN|3JAYN|3JHOX|3KAR",
  "3KIW|3LAN|3LYIT|3MAQ|3NOWC|3ON|3PEN|3PIWR|3QAR|3QAY|3RAT|3SEYK|3SHA|3SHAK|3SHOY|3TAS|3TIWR",
  "3TYAY|3VEYZ|3XEYN|3YAYD|3YOWD|3ZARL|3ZHA|3ZHIL|0CAUTION SIGN|0CCH|0CEDI SIGN|0CEDILLA",
  "0CELTIC CROSS|0CENT SIGN|0CENTRE LINE SYMBOL|0CENTRELINE LOW LINE|1OVERLINE|0CERES|0CGJ|0CHAINS",
  "0CHAIR|0CHAKMA AU MARK|1DANDA|1DIGIT EIGHT|2FIVE|2FOUR|2NINE|2ONE|2SEVEN|2SIX|2THREE|2TWO|2ZERO",
  "1DOUBLE DANDA|1LETTER AA|2BAA|2BHAA|2CAA|2CHAA|2DAA|2DDAA|2DDHAA|2DHAA|2E|2GAA|2GHAA|2HAA|2I",
  "2JAA|2JHAA|2KAA|2KHAA|2LAA|2LHAA|2MAA|2NAA|2NGAA|2NNAA|2NYAA|2PAA|2PHAA|2RAA|2SAA|2TAA|2THAA",
  "2TTAA|2TTHAA|2U|2VAA|2WAA|2YAA|2YYAA|1MAAYYAA|1O MARK|1QUESTION MARK|1SECTION MARK",
  "1SIGN ANUSVARA|2CANDRABINDU|2VISARGA|1VIRAMA|1VOWEL SIGN A|3AA|3AI|3AU|3E|3EI|3I|3II|3O|3OI|3U",
  "3UU|0CHAM CONSONANT SIGN FINAL H|4M|4NG|3LA|3RA|3WA|3YA|1DIGIT EIGHT|2FIVE|2FOUR|2NINE|2ONE",
  "2SEVEN|2SIX|2THREE|2TWO|2ZERO|1LETTER A|2AI|2BA|2BBA|2BHA|2CHA|2CHHA|2DA|2DDA|2DHA|2E|2FINAL CH",
  "3G|3K|3L|3N|3NG|3P|3R|3SS|3T|3Y|2GA|2GHA|2HA|2I|2JA|2JHA|2KA|2KHA|2LA|2MA|2MUE|2NA|2NGA|2NGUE",
  "2NHA|2NHJA|2NHUE|2NUE|2O|2PA|2PHA|2PPA|2RA|2SA|2SSA|2TA|2THA|2U|2VA|2YA|1PUNCTUATION DANDA",
  "2DOUBLE DANDA|2SPIRAL|2TRIPLE DANDA|1VOWEL SIGN AA|3AI|3AU|3EI|3I|3II|3O|3OE|3U|3UE",
  "0CHARACTER TABULATION|2SET|2WITH JUSTIFICATION|1TIE|0CHART WITH DOWNWARDS TREND|2UPWARDS TREND",
  "4AND YEN SIGN|0CHECK MARK|0CHECKER BOARD|2FILL|0CHEERING MEGAPHONE|0CHEESE WEDGE",
  "0CHEQUERED FLAG|0CHEROKEE LETTER A|2DA|2DE|2DI|2DLA|2DO|2DU|2DV|2E|2GA|2GE|2GI|2GO|2GU|2GV|2HA",
  "2HE|2HI|2HNA|2HO|2HU|2HV|2I|2KA|2LA|2LE|2LI|2LO|2LU|2LV|2MA|2ME|2MI|2MO|2MU|2MV|2NA|2NAH|2NE",
  "2NI|2NO|2NU|2NV|2O|2QUA|2QUE|2QUI|2QUO|2QUU|2QUV|2S|2SA|2SE|2SI|2SO|2SU|2SV|2TA|2TE|2TI|2TLA",
  "2TLE|2TLI|2TLO|2TLU|2TLV|2TSA|2TSE|2TSI|2TSO|2TSU|2TSV|2U|2V|2WA|2WE|2WI|2WO|2WU|2WV|2YA|2YE",
  "2YI|2YO|2YU|2YV|1SMALL LETTER A|3DA|3DE|3DI|3DLA|3DO|3DU|3DV|3E|3GA|3GE|3GI|3GO|3GU|3GV|3HA|3HE",
  "3HI|3HNA|3HO|3HU|3HV|3I|3KA|3LA|3LE|3LI|3LO|3LU|3LV|3MA|3ME|3MI|3MO|3MU|3MV|3NA|3NAH|3NE|3NI",
  "3NO|3NU|3NV|3O|3QUA|3QUE|3QUI|3QUO|3QUU|3QUV|3S|3SA|3SE|3SI|3SO|3SU|3SV|3TA|3TE|3TI|3TLA|3TLE",
  "3TLI|3TLO|3TLU|3TLV|3TSA|3TSE|3TSI|3TSO|3TSU|3TSV|3U|3V|3WA|3WE|3WI|3WO|3WU|3WV|3YA|3YE|3YI|3YO",
  "3YU|3YV|0CHERRIES|0CHERRY BLOSSOM|0CHESTNUT|0CHI RHO|0CHICKEN|0CHILD|0CHILDREN CROSSING",
  "0CHIPMUNK|0CHIRON|0CHOCOLATE BAR|0CHOPSTICKS|0CHORASMIAN LETTER ALEPH|2AYIN|2BETH|2CURLED WAW",
  "2DALETH|2GIMEL|2HE|2HETH|2KAPH|2LAMEDH|2MEM|2NUN|2PE|2RESH|2SAMEKH|2SHIN|2SMALL ALEPH|2TAW|2WAW",
  "2YODH|2ZAYIN|1NUMBER FOUR|2ONE|3HUNDRED|2TEN|2THREE|2TWENTY|2TWO|0CHRISTMAS TREE|0CHURCH",
  "0CINEMA|0CIRCLE DIVIDED BY HORIZONTAL BAR AND TOP HALF DIVIDED BY VERTICAL BAR",
  "1WITH ALL BUT UPPER LEFT QUADRANT BLACK|2HORIZONTAL BAR|2LEFT HALF BLACK|2LOWER HALF BLACK",
  "2RIGHT HALF BLACK|2SMALL CIRCLE TO THE RIGHT|2SUPERIMPOSED X",
  "2TWO HORIZONTAL STROKES TO THE RIGHT|2UPPER HALF BLACK|3RIGHT QUADRANT BLACK|2VERTICAL FILL",
  "0CIRCLED ANTICLOCKWISE ARROW|1ANTICLOCKWISE-ROTATED DIVISION SIGN|1ASTERISK OPERATOR|1BOLD X",
  "1BULLET|1C WITH OVERLAID BACKSLASH|1CC|1CD|1CROSS FORMEE|3WITH FOUR DOTS|4TWO DOTS|2POMMEE",
  "1CROSSING LANES|1DASH|1DIGIT EIGHT|2FIVE|2FOUR|2NINE|2ONE|2SEVEN|2SIX|2THREE|2TWO|2ZERO",
  "1DIVISION SIGN|2SLASH|1DOLLAR SIGN WITH OVERLAID BACKSLASH|1DOT OPERATOR|1EQUALS|1GREATER-THAN",
  "1HANGUL CHIEUCH|3A|2CIEUC|3A|2HIEUH|3A|2IEUNG|3A|3U|2KHIEUKH|3A|2KIYEOK|3A|2MIEUM|3A|2NIEUN|3A",
  "2PHIEUPH|3A|2PIEUP|3A|2RIEUL|3A|2SIOS|3A|2THIEUTH|3A|2TIKEUT|3A|1HEAVY WHITE RIGHTWARDS ARROW",
  "1HORIZONTAL BAR WITH NOTCH|1HUMAN FIGURE|1IDEOGRAPH ACCEPT|2ADVANTAGE|2ALLIANCE|2ATTENTION",
  "2CENTRE|2CONGRATULATION|2COPY|2CORRECT|2EARTH|2EIGHT|2ENTERPRISE|2EXCELLENT|2FEMALE|2FINANCIAL",
  "2FIRE|2FIVE|2FOUR|2HAVE|2HIGH|2ITEM|2KINDERGARTEN|2KOTO|2LABOR|2LEFT|2LOW|2MALE|2MEDICINE",
  "2METAL|2MOON|2NAME|2NIGHT|2NINE|2ONE|2PRINT|2QUESTION|2RELIGION|2RESOURCE|2REST|2RIGHT|2SCHOOL",
  "2SECRET|2SEVEN|2SIX|2SOCIETY|2SPECIAL|2STOCK|2STUDY|2SUITABLE|2SUN|2SUPERVISE|2TEN|2THREE|2TWO",
  "2WATER|2WOOD|1INFORMATION SOURCE|1ITALIC LATIN CAPITAL LETTER C|5R|1KATAKANA A|2E|2HA|2HE|2HI",
  "2HO|2HU|2I|2KA|2KE|2KI|2KO|2KU|2MA|2ME|2MI|2MO|2MU|2NA|2NE|2NI|2NO|2NU|2O|2RA|2RE|2RI|2RO|2RU",
  "2SA|2SE|2SI|2SO|2SU|2TA|2TE|2TI|2TO|2TU|2U|2WA|2WE|2WI|2WO|2YA|2YO|2YU|1KOREAN CHARACTER CHAMKO",
  "3JUEUI|1LATIN CAPITAL LETTER A|4B|4C|4D|4E|4F|4G|4H|4I|4J|4K|4L|4M|4N|4O|4P|4Q|4R|4S|4T|4U|4V",
  "4W|4X|4Y|4Z|2SMALL LETTER A|4B|4C|4D|4E|4F|4G|4H|4I|4J|4K|4L|4M|4N|4O|4P|4Q|4R|4S|4T|4U|4V|4W",
  "4X|4Y|4Z|1LESS-THAN|1MINUS|1MULTIPLICATION SIGN WITH CIRCUMFLEX ACCENT|1NUMBER EIGHTEEN",
  "2EIGHTY ON BLACK SQUARE|2ELEVEN|2FIFTEEN|2FIFTY|3ON BLACK SQUARE|2FORTY|3EIGHT|3FIVE|3FOUR",
  "3NINE|3ON BLACK SQUARE|3ONE|3SEVEN|3SIX|3THREE|3TWO|2FOURTEEN|2NINETEEN|2SEVENTEEN",
  "2SEVENTY ON BLACK SQUARE|2SIXTEEN|2SIXTY ON BLACK SQUARE|2TEN|3ON BLACK SQUARE|2THIRTEEN",
  "2THIRTY|3EIGHT|3FIVE|3FOUR|3NINE|3ON BLACK SQUARE|3ONE|3SEVEN|3SIX|3THREE|3TWO|2TWELVE|2TWENTY",
  "3EIGHT|3FIVE|3FOUR|3NINE|3ON BLACK SQUARE|3ONE|3SEVEN|3SIX|3THREE|3TWO",
  "1OPEN CENTRE EIGHT POINTED STAR|1PARALLEL|1PERPENDICULAR|1PLUS|1POSTAL MARK|1REVERSE SOLIDUS",
  "1RING OPERATOR|1SQUARE|1TIMES|1TRIANGLE|2DOWN|1VERTICAL BAR|1WHITE BULLET|2STAR|1WZ|1X",
  "1ZERO WITH SLASH|0CIRCULATION FUNCTION|0CIRCUMFLEX ACCENT|0CIRCUS TENT|0CITYSCAPE|1AT DUSK",
  "0CJK COMPATIBILITY IDEOGRAPH-2F800|2IDEOGRAPH-2F801|2IDEOGRAPH-2F802|2IDEOGRAPH-2F803",
  "2IDEOGRAPH-2F804|2IDEOGRAPH-2F805|2IDEOGRAPH-2F806|2IDEOGRAPH-2F807|2IDEOGRAPH-2F808",
  "2IDEOGRAPH-2F809|2IDEOGRAPH-2F80A|2IDEOGRAPH-2F80B|2IDEOGRAPH-2F80C|2IDEOGRAPH-2F80D",
  "2IDEOGRAPH-2F80E|2IDEOGRAPH-2F80F|2IDEOGRAPH-2F810|2IDEOGRAPH-2F811|2IDEOGRAPH-2F812",
  "2IDEOGRAPH-2F813|2IDEOGRAPH-2F814|2IDEOGRAPH-2F815|2IDEOGRAPH-2F816|2IDEOGRAPH-2F817",
  "2IDEOGRAPH-2F818|2IDEOGRAPH-2F819|2IDEOGRAPH-2F81A|2IDEOGRAPH-2F81B|2IDEOGRAPH-2F81C",
  "2IDEOGRAPH-2F81D|2IDEOGRAPH-2F81E|2IDEOGRAPH-2F81F|2IDEOGRAPH-2F820|2IDEOGRAPH-2F821",
  "2IDEOGRAPH-2F822|2IDEOGRAPH-2F823|2IDEOGRAPH-2F824|2IDEOGRAPH-2F825|2IDEOGRAPH-2F826",
  "2IDEOGRAPH-2F827|2IDEOGRAPH-2F828|2IDEOGRAPH-2F829|2IDEOGRAPH-2F82A|2IDEOGRAPH-2F82B",
  "2IDEOGRAPH-2F82C|2IDEOGRAPH-2F82D|2IDEOGRAPH-2F82E|2IDEOGRAPH-2F82F|2IDEOGRAPH-2F830",
  "2IDEOGRAPH-2F831|2IDEOGRAPH-2F832|2IDEOGRAPH-2F833|2IDEOGRAPH-2F834|2IDEOGRAPH-2F835",
  "2IDEOGRAPH-2F836|2IDEOGRAPH-2F837|2IDEOGRAPH-2F838|2IDEOGRAPH-2F839|2IDEOGRAPH-2F83A",
  "2IDEOGRAPH-2F83B|2IDEOGRAPH-2F83C|2IDEOGRAPH-2F83D|2IDEOGRAPH-2F83E|2IDEOGRAPH-2F83F",
  "2IDEOGRAPH-2F840|2IDEOGRAPH-2F841|2IDEOGRAPH-2F842|2IDEOGRAPH-2F843|2IDEOGRAPH-2F844",
  "2IDEOGRAPH-2F845|2IDEOGRAPH-2F846|2IDEOGRAPH-2F847|2IDEOGRAPH-2F848|2IDEOGRAPH-2F849",
  "2IDEOGRAPH-2F84A|2IDEOGRAPH-2F84B|2IDEOGRAPH-2F84C|2IDEOGRAPH-2F84D|2IDEOGRAPH-2F84E",
  "2IDEOGRAPH-2F84F|2IDEOGRAPH-2F850|2IDEOGRAPH-2F851|2IDEOGRAPH-2F852|2IDEOGRAPH-2F853",
  "2IDEOGRAPH-2F854|2IDEOGRAPH-2F855|2IDEOGRAPH-2F856|2IDEOGRAPH-2F857|2IDEOGRAPH-2F858",
  "2IDEOGRAPH-2F859|2IDEOGRAPH-2F85A|2IDEOGRAPH-2F85B|2IDEOGRAPH-2F85C|2IDEOGRAPH-2F85D",
  "2IDEOGRAPH-2F85E|2IDEOGRAPH-2F85F|2IDEOGRAPH-2F860|2IDEOGRAPH-2F861|2IDEOGRAPH-2F862",
  "2IDEOGRAPH-2F863|2IDEOGRAPH-2F864|2IDEOGRAPH-2F865|2IDEOGRAPH-2F866|2IDEOGRAPH-2F867",
  "2IDEOGRAPH-2F868|2IDEOGRAPH-2F869|2IDEOGRAPH-2F86A|2IDEOGRAPH-2F86B|2IDEOGRAPH-2F86C",
  "2IDEOGRAPH-2F86D|2IDEOGRAPH-2F86E|2IDEOGRAPH-2F86F|2IDEOGRAPH-2F870|2IDEOGRAPH-2F871",
  "2IDEOGRAPH-2F872|2IDEOGRAPH-2F873|2IDEOGRAPH-2F874|2IDEOGRAPH-2F875|2IDEOGRAPH-2F876",
  "2IDEOGRAPH-2F877|2IDEOGRAPH-2F878|2IDEOGRAPH-2F879|2IDEOGRAPH-2F87A|2IDEOGRAPH-2F87B",
  "2IDEOGRAPH-2F87C|2IDEOGRAPH-2F87D|2IDEOGRAPH-2F87E|2IDEOGRAPH-2F87F|2IDEOGRAPH-2F880",
  "2IDEOGRAPH-2F881|2IDEOGRAPH-2F882|2IDEOGRAPH-2F883|2IDEOGRAPH-2F884|2IDEOGRAPH-2F885",
  "2IDEOGRAPH-2F886|2IDEOGRAPH-2F887|2IDEOGRAPH-2F888|2IDEOGRAPH-2F889|2IDEOGRAPH-2F88A",
  "2IDEOGRAPH-2F88B|2IDEOGRAPH-2F88C|2IDEOGRAPH-2F88D|2IDEOGRAPH-2F88E|2IDEOGRAPH-2F88F",
  "2IDEOGRAPH-2F890|2IDEOGRAPH-2F891|2IDEOGRAPH-2F892|2IDEOGRAPH-2F893|2IDEOGRAPH-2F894",
  "2IDEOGRAPH-2F895|2IDEOGRAPH-2F896|2IDEOGRAPH-2F897|2IDEOGRAPH-2F898|2IDEOGRAPH-2F899",
  "2IDEOGRAPH-2F89A|2IDEOGRAPH-2F89B|2IDEOGRAPH-2F89C|2IDEOGRAPH-2F89D|2IDEOGRAPH-2F89E",
  "2IDEOGRAPH-2F89F|2IDEOGRAPH-2F8A0|2IDEOGRAPH-2F8A1|2IDEOGRAPH-2F8A2|2IDEOGRAPH-2F8A3",
  "2IDEOGRAPH-2F8A4|2IDEOGRAPH-2F8A5|2IDEOGRAPH-2F8A6|2IDEOGRAPH-2F8A7|2IDEOGRAPH-2F8A8",
  "2IDEOGRAPH-2F8A9|2IDEOGRAPH-2F8AA|2IDEOGRAPH-2F8AB|2IDEOGRAPH-2F8AC|2IDEOGRAPH-2F8AD",
  "2IDEOGRAPH-2F8AE|2IDEOGRAPH-2F8AF|2IDEOGRAPH-2F8B0|2IDEOGRAPH-2F8B1|2IDEOGRAPH-2F8B2",
  "2IDEOGRAPH-2F8B3|2IDEOGRAPH-2F8B4|2IDEOGRAPH-2F8B5|2IDEOGRAPH-2F8B6|2IDEOGRAPH-2F8B7",
  "2IDEOGRAPH-2F8B8|2IDEOGRAPH-2F8B9|2IDEOGRAPH-2F8BA|2IDEOGRAPH-2F8BB|2IDEOGRAPH-2F8BC",
  "2IDEOGRAPH-2F8BD|2IDEOGRAPH-2F8BE|2IDEOGRAPH-2F8BF|2IDEOGRAPH-2F8C0|2IDEOGRAPH-2F8C1",
  "2IDEOGRAPH-2F8C2|2IDEOGRAPH-2F8C3|2IDEOGRAPH-2F8C4|2IDEOGRAPH-2F8C5|2IDEOGRAPH-2F8C6",
  "2IDEOGRAPH-2F8C7|2IDEOGRAPH-2F8C8|2IDEOGRAPH-2F8C9|2IDEOGRAPH-2F8CA|2IDEOGRAPH-2F8CB",
  "2IDEOGRAPH-2F8CC|2IDEOGRAPH-2F8CD|2IDEOGRAPH-2F8CE|2IDEOGRAPH-2F8CF|2IDEOGRAPH-2F8D0",
  "2IDEOGRAPH-2F8D1|2IDEOGRAPH-2F8D2|2IDEOGRAPH-2F8D3|2IDEOGRAPH-2F8D4|2IDEOGRAPH-2F8D5",
  "2IDEOGRAPH-2F8D6|2IDEOGRAPH-2F8D7|2IDEOGRAPH-2F8D8|2IDEOGRAPH-2F8D9|2IDEOGRAPH-2F8DA",
  "2IDEOGRAPH-2F8DB|2IDEOGRAPH-2F8DC|2IDEOGRAPH-2F8DD|2IDEOGRAPH-2F8DE|2IDEOGRAPH-2F8DF",
  "2IDEOGRAPH-2F8E0|2IDEOGRAPH-2F8E1|2IDEOGRAPH-2F8E2|2IDEOGRAPH-2F8E3|2IDEOGRAPH-2F8E4",
  "2IDEOGRAPH-2F8E5|2IDEOGRAPH-2F8E6|2IDEOGRAPH-2F8E7|2IDEOGRAPH-2F8E8|2IDEOGRAPH-2F8E9",
  "2IDEOGRAPH-2F8EA|2IDEOGRAPH-2F8EB|2IDEOGRAPH-2F8EC|2IDEOGRAPH-2F8ED|2IDEOGRAPH-2F8EE",
  "2IDEOGRAPH-2F8EF|2IDEOGRAPH-2F8F0|2IDEOGRAPH-2F8F1|2IDEOGRAPH-2F8F2|2IDEOGRAPH-2F8F3",
  "2IDEOGRAPH-2F8F4|2IDEOGRAPH-2F8F5|2IDEOGRAPH-2F8F6|2IDEOGRAPH-2F8F7|2IDEOGRAPH-2F8F8",
  "2IDEOGRAPH-2F8F9|2IDEOGRAPH-2F8FA|2IDEOGRAPH-2F8FB|2IDEOGRAPH-2F8FC|2IDEOGRAPH-2F8FD",
  "2IDEOGRAPH-2F8FE|2IDEOGRAPH-2F8FF|2IDEOGRAPH-2F900|2IDEOGRAPH-2F901|2IDEOGRAPH-2F902",
  "2IDEOGRAPH-2F903|2IDEOGRAPH-2F904|2IDEOGRAPH-2F905|2IDEOGRAPH-2F906|2IDEOGRAPH-2F907",
  "2IDEOGRAPH-2F908|2IDEOGRAPH-2F909|2IDEOGRAPH-2F90A|2IDEOGRAPH-2F90B|2IDEOGRAPH-2F90C",
  "2IDEOGRAPH-2F90D|2IDEOGRAPH-2F90E|2IDEOGRAPH-2F90F|2IDEOGRAPH-2F910|2IDEOGRAPH-2F911",
  "2IDEOGRAPH-2F912|2IDEOGRAPH-2F913|2IDEOGRAPH-2F914|2IDEOGRAPH-2F915|2IDEOGRAPH-2F916",
  "2IDEOGRAPH-2F917|2IDEOGRAPH-2F918|2IDEOGRAPH-2F919|2IDEOGRAPH-2F91A|2IDEOGRAPH-2F91B",
  "2IDEOGRAPH-2F91C|2IDEOGRAPH-2F91D|2IDEOGRAPH-2F91E|2IDEOGRAPH-2F91F|2IDEOGRAPH-2F920",
  "2IDEOGRAPH-2F921|2IDEOGRAPH-2F922|2IDEOGRAPH-2F923|2IDEOGRAPH-2F924|2IDEOGRAPH-2F925",
  "2IDEOGRAPH-2F926|2IDEOGRAPH-2F927|2IDEOGRAPH-2F928|2IDEOGRAPH-2F929|2IDEOGRAPH-2F92A",
  "2IDEOGRAPH-2F92B|2IDEOGRAPH-2F92C|2IDEOGRAPH-2F92D|2IDEOGRAPH-2F92E|2IDEOGRAPH-2F92F",
  "2IDEOGRAPH-2F930|2IDEOGRAPH-2F931|2IDEOGRAPH-2F932|2IDEOGRAPH-2F933|2IDEOGRAPH-2F934",
  "2IDEOGRAPH-2F935|2IDEOGRAPH-2F936|2IDEOGRAPH-2F937|2IDEOGRAPH-2F938|2IDEOGRAPH-2F939",
  "2IDEOGRAPH-2F93A|2IDEOGRAPH-2F93B|2IDEOGRAPH-2F93C|2IDEOGRAPH-2F93D|2IDEOGRAPH-2F93E",
  "2IDEOGRAPH-2F93F|2IDEOGRAPH-2F940|2IDEOGRAPH-2F941|2IDEOGRAPH-2F942|2IDEOGRAPH-2F943",
  "2IDEOGRAPH-2F944|2IDEOGRAPH-2F945|2IDEOGRAPH-2F946|2IDEOGRAPH-2F947|2IDEOGRAPH-2F948",
  "2IDEOGRAPH-2F949|2IDEOGRAPH-2F94A|2IDEOGRAPH-2F94B|2IDEOGRAPH-2F94C|2IDEOGRAPH-2F94D",
  "2IDEOGRAPH-2F94E|2IDEOGRAPH-2F94F|2IDEOGRAPH-2F950|2IDEOGRAPH-2F951|2IDEOGRAPH-2F952",
  "2IDEOGRAPH-2F953|2IDEOGRAPH-2F954|2IDEOGRAPH-2F955|2IDEOGRAPH-2F956|2IDEOGRAPH-2F957",
  "2IDEOGRAPH-2F958|2IDEOGRAPH-2F959|2IDEOGRAPH-2F95A|2IDEOGRAPH-2F95B|2IDEOGRAPH-2F95C",
  "2IDEOGRAPH-2F95D|2IDEOGRAPH-2F95E|2IDEOGRAPH-2F95F|2IDEOGRAPH-2F960|2IDEOGRAPH-2F961",
  "2IDEOGRAPH-2F962|2IDEOGRAPH-2F963|2IDEOGRAPH-2F964|2IDEOGRAPH-2F965|2IDEOGRAPH-2F966",
  "2IDEOGRAPH-2F967|2IDEOGRAPH-2F968|2IDEOGRAPH-2F969|2IDEOGRAPH-2F96A|2IDEOGRAPH-2F96B",
  "2IDEOGRAPH-2F96C|2IDEOGRAPH-2F96D|2IDEOGRAPH-2F96E|2IDEOGRAPH-2F96F|2IDEOGRAPH-2F970",
  "2IDEOGRAPH-2F971|2IDEOGRAPH-2F972|2IDEOGRAPH-2F973|2IDEOGRAPH-2F974|2IDEOGRAPH-2F975",
  "2IDEOGRAPH-2F976|2IDEOGRAPH-2F977|2IDEOGRAPH-2F978|2IDEOGRAPH-2F979|2IDEOGRAPH-2F97A",
  "2IDEOGRAPH-2F97B|2IDEOGRAPH-2F97C|2IDEOGRAPH-2F97D|2IDEOGRAPH-2F97E|2IDEOGRAPH-2F97F",
  "2IDEOGRAPH-2F980|2IDEOGRAPH-2F981|2IDEOGRAPH-2F982|2IDEOGRAPH-2F983|2IDEOGRAPH-2F984",
  "2IDEOGRAPH-2F985|2IDEOGRAPH-2F986|2IDEOGRAPH-2F987|2IDEOGRAPH-2F988|2IDEOGRAPH-2F989",
  "2IDEOGRAPH-2F98A|2IDEOGRAPH-2F98B|2IDEOGRAPH-2F98C|2IDEOGRAPH-2F98D|2IDEOGRAPH-2F98E",
  "2IDEOGRAPH-2F98F|2IDEOGRAPH-2F990|2IDEOGRAPH-2F991|2IDEOGRAPH-2F992|2IDEOGRAPH-2F993",
  "2IDEOGRAPH-2F994|2IDEOGRAPH-2F995|2IDEOGRAPH-2F996|2IDEOGRAPH-2F997|2IDEOGRAPH-2F998",
  "2IDEOGRAPH-2F999|2IDEOGRAPH-2F99A|2IDEOGRAPH-2F99B|2IDEOGRAPH-2F99C|2IDEOGRAPH-2F99D",
  "2IDEOGRAPH-2F99E|2IDEOGRAPH-2F99F|2IDEOGRAPH-2F9A0|2IDEOGRAPH-2F9A1|2IDEOGRAPH-2F9A2",
  "2IDEOGRAPH-2F9A3|2IDEOGRAPH-2F9A4|2IDEOGRAPH-2F9A5|2IDEOGRAPH-2F9A6|2IDEOGRAPH-2F9A7",
  "2IDEOGRAPH-2F9A8|2IDEOGRAPH-2F9A9|2IDEOGRAPH-2F9AA|2IDEOGRAPH-2F9AB|2IDEOGRAPH-2F9AC",
  "2IDEOGRAPH-2F9AD|2IDEOGRAPH-2F9AE|2IDEOGRAPH-2F9AF|2IDEOGRAPH-2F9B0|2IDEOGRAPH-2F9B1",
  "2IDEOGRAPH-2F9B2|2IDEOGRAPH-2F9B3|2IDEOGRAPH-2F9B4|2IDEOGRAPH-2F9B5|2IDEOGRAPH-2F9B6",
  "2IDEOGRAPH-2F9B7|2IDEOGRAPH-2F9B8|2IDEOGRAPH-2F9B9|2IDEOGRAPH-2F9BA|2IDEOGRAPH-2F9BB",
  "2IDEOGRAPH-2F9BC|2IDEOGRAPH-2F9BD|2IDEOGRAPH-2F9BE|2IDEOGRAPH-2F9BF|2IDEOGRAPH-2F9C0",
  "2IDEOGRAPH-2F9C1|2IDEOGRAPH-2F9C2|2IDEOGRAPH-2F9C3|2IDEOGRAPH-2F9C4|2IDEOGRAPH-2F9C5",
  "2IDEOGRAPH-2F9C6|2IDEOGRAPH-2F9C7|2IDEOGRAPH-2F9C8|2IDEOGRAPH-2F9C9|2IDEOGRAPH-2F9CA",
  "2IDEOGRAPH-2F9CB|2IDEOGRAPH-2F9CC|2IDEOGRAPH-2F9CD|2IDEOGRAPH-2F9CE|2IDEOGRAPH-2F9CF",
  "2IDEOGRAPH-2F9D0|2IDEOGRAPH-2F9D1|2IDEOGRAPH-2F9D2|2IDEOGRAPH-2F9D3|2IDEOGRAPH-2F9D4",
  "2IDEOGRAPH-2F9D5|2IDEOGRAPH-2F9D6|2IDEOGRAPH-2F9D7|2IDEOGRAPH-2F9D8|2IDEOGRAPH-2F9D9",
  "2IDEOGRAPH-2F9DA|2IDEOGRAPH-2F9DB|2IDEOGRAPH-2F9DC|2IDEOGRAPH-2F9DD|2IDEOGRAPH-2F9DE",
  "2IDEOGRAPH-2F9DF|2IDEOGRAPH-2F9E0|2IDEOGRAPH-2F9E1|2IDEOGRAPH-2F9E2|2IDEOGRAPH-2F9E3",
  "2IDEOGRAPH-2F9E4|2IDEOGRAPH-2F9E5|2IDEOGRAPH-2F9E6|2IDEOGRAPH-2F9E7|2IDEOGRAPH-2F9E8",
  "2IDEOGRAPH-2F9E9|2IDEOGRAPH-2F9EA|2IDEOGRAPH-2F9EB|2IDEOGRAPH-2F9EC|2IDEOGRAPH-2F9ED",
  "2IDEOGRAPH-2F9EE|2IDEOGRAPH-2F9EF|2IDEOGRAPH-2F9F0|2IDEOGRAPH-2F9F1|2IDEOGRAPH-2F9F2",
  "2IDEOGRAPH-2F9F3|2IDEOGRAPH-2F9F4|2IDEOGRAPH-2F9F5|2IDEOGRAPH-2F9F6|2IDEOGRAPH-2F9F7",
  "2IDEOGRAPH-2F9F8|2IDEOGRAPH-2F9F9|2IDEOGRAPH-2F9FA|2IDEOGRAPH-2F9FB|2IDEOGRAPH-2F9FC",
  "2IDEOGRAPH-2F9FD|2IDEOGRAPH-2F9FE|2IDEOGRAPH-2F9FF|2IDEOGRAPH-2FA00|2IDEOGRAPH-2FA01",
  "2IDEOGRAPH-2FA02|2IDEOGRAPH-2FA03|2IDEOGRAPH-2FA04|2IDEOGRAPH-2FA05|2IDEOGRAPH-2FA06",
  "2IDEOGRAPH-2FA07|2IDEOGRAPH-2FA08|2IDEOGRAPH-2FA09|2IDEOGRAPH-2FA0A|2IDEOGRAPH-2FA0B",
  "2IDEOGRAPH-2FA0C|2IDEOGRAPH-2FA0D|2IDEOGRAPH-2FA0E|2IDEOGRAPH-2FA0F|2IDEOGRAPH-2FA10",
  "2IDEOGRAPH-2FA11|2IDEOGRAPH-2FA12|2IDEOGRAPH-2FA13|2IDEOGRAPH-2FA14|2IDEOGRAPH-2FA15",
  "2IDEOGRAPH-2FA16|2IDEOGRAPH-2FA17|2IDEOGRAPH-2FA18|2IDEOGRAPH-2FA19|2IDEOGRAPH-2FA1A",
  "2IDEOGRAPH-2FA1B|2IDEOGRAPH-2FA1C|2IDEOGRAPH-2FA1D|2IDEOGRAPH-F900|2IDEOGRAPH-F901",
  "2IDEOGRAPH-F902|2IDEOGRAPH-F903|2IDEOGRAPH-F904|2IDEOGRAPH-F905|2IDEOGRAPH-F906|2IDEOGRAPH-F907",
  "2IDEOGRAPH-F908|2IDEOGRAPH-F909|2IDEOGRAPH-F90A|2IDEOGRAPH-F90B|2IDEOGRAPH-F90C|2IDEOGRAPH-F90D",
  "2IDEOGRAPH-F90E|2IDEOGRAPH-F90F|2IDEOGRAPH-F910|2IDEOGRAPH-F911|2IDEOGRAPH-F912|2IDEOGRAPH-F913",
  "2IDEOGRAPH-F914|2IDEOGRAPH-F915|2IDEOGRAPH-F916|2IDEOGRAPH-F917|2IDEOGRAPH-F918|2IDEOGRAPH-F919",
  "2IDEOGRAPH-F91A|2IDEOGRAPH-F91B|2IDEOGRAPH-F91C|2IDEOGRAPH-F91D|2IDEOGRAPH-F91E|2IDEOGRAPH-F91F",
  "2IDEOGRAPH-F920|2IDEOGRAPH-F921|2IDEOGRAPH-F922|2IDEOGRAPH-F923|2IDEOGRAPH-F924|2IDEOGRAPH-F925",
  "2IDEOGRAPH-F926|2IDEOGRAPH-F927|2IDEOGRAPH-F928|2IDEOGRAPH-F929|2IDEOGRAPH-F92A|2IDEOGRAPH-F92B",
  "2IDEOGRAPH-F92C|2IDEOGRAPH-F92D|2IDEOGRAPH-F92E|2IDEOGRAPH-F92F|2IDEOGRAPH-F930|2IDEOGRAPH-F931",
  "2IDEOGRAPH-F932|2IDEOGRAPH-F933|2IDEOGRAPH-F934|2IDEOGRAPH-F935|2IDEOGRAPH-F936|2IDEOGRAPH-F937",
  "2IDEOGRAPH-F938|2IDEOGRAPH-F939|2IDEOGRAPH-F93A|2IDEOGRAPH-F93B|2IDEOGRAPH-F93C|2IDEOGRAPH-F93D",
  "2IDEOGRAPH-F93E|2IDEOGRAPH-F93F|2IDEOGRAPH-F940|2IDEOGRAPH-F941|2IDEOGRAPH-F942|2IDEOGRAPH-F943",
  "2IDEOGRAPH-F944|2IDEOGRAPH-F945|2IDEOGRAPH-F946|2IDEOGRAPH-F947|2IDEOGRAPH-F948|2IDEOGRAPH-F949",
  "2IDEOGRAPH-F94A|2IDEOGRAPH-F94B|2IDEOGRAPH-F94C|2IDEOGRAPH-F94D|2IDEOGRAPH-F94E|2IDEOGRAPH-F94F",
  "2IDEOGRAPH-F950|2IDEOGRAPH-F951|2IDEOGRAPH-F952|2IDEOGRAPH-F953|2IDEOGRAPH-F954|2IDEOGRAPH-F955",
  "2IDEOGRAPH-F956|2IDEOGRAPH-F957|2IDEOGRAPH-F958|2IDEOGRAPH-F959|2IDEOGRAPH-F95A|2IDEOGRAPH-F95B",
  "2IDEOGRAPH-F95C|2IDEOGRAPH-F95D|2IDEOGRAPH-F95E|2IDEOGRAPH-F95F|2IDEOGRAPH-F960|2IDEOGRAPH-F961",
  "2IDEOGRAPH-F962|2IDEOGRAPH-F963|2IDEOGRAPH-F964|2IDEOGRAPH-F965|2IDEOGRAPH-F966|2IDEOGRAPH-F967",
  "2IDEOGRAPH-F968|2IDEOGRAPH-F969|2IDEOGRAPH-F96A|2IDEOGRAPH-F96B|2IDEOGRAPH-F96C|2IDEOGRAPH-F96D",
  "2IDEOGRAPH-F96E|2IDEOGRAPH-F96F|2IDEOGRAPH-F970|2IDEOGRAPH-F971|2IDEOGRAPH-F972|2IDEOGRAPH-F973",
  "2IDEOGRAPH-F974|2IDEOGRAPH-F975|2IDEOGRAPH-F976|2IDEOGRAPH-F977|2IDEOGRAPH-F978|2IDEOGRAPH-F979",
  "2IDEOGRAPH-F97A|2IDEOGRAPH-F97B|2IDEOGRAPH-F97C|2IDEOGRAPH-F97D|2IDEOGRAPH-F97E|2IDEOGRAPH-F97F",
  "2IDEOGRAPH-F980|2IDEOGRAPH-F981|2IDEOGRAPH-F982|2IDEOGRAPH-F983|2IDEOGRAPH-F984|2IDEOGRAPH-F985",
  "2IDEOGRAPH-F986|2IDEOGRAPH-F987|2IDEOGRAPH-F988|2IDEOGRAPH-F989|2IDEOGRAPH-F98A|2IDEOGRAPH-F98B",
  "2IDEOGRAPH-F98C|2IDEOGRAPH-F98D|2IDEOGRAPH-F98E|2IDEOGRAPH-F98F|2IDEOGRAPH-F990|2IDEOGRAPH-F991",
  "2IDEOGRAPH-F992|2IDEOGRAPH-F993|2IDEOGRAPH-F994|2IDEOGRAPH-F995|2IDEOGRAPH-F996|2IDEOGRAPH-F997",
  "2IDEOGRAPH-F998|2IDEOGRAPH-F999|2IDEOGRAPH-F99A|2IDEOGRAPH-F99B|2IDEOGRAPH-F99C|2IDEOGRAPH-F99D",
  "2IDEOGRAPH-F99E|2IDEOGRAPH-F99F|2IDEOGRAPH-F9A0|2IDEOGRAPH-F9A1|2IDEOGRAPH-F9A2|2IDEOGRAPH-F9A3",
  "2IDEOGRAPH-F9A4|2IDEOGRAPH-F9A5|2IDEOGRAPH-F9A6|2IDEOGRAPH-F9A7|2IDEOGRAPH-F9A8|2IDEOGRAPH-F9A9",
  "2IDEOGRAPH-F9AA|2IDEOGRAPH-F9AB|2IDEOGRAPH-F9AC|2IDEOGRAPH-F9AD|2IDEOGRAPH-F9AE|2IDEOGRAPH-F9AF",
  "2IDEOGRAPH-F9B0|2IDEOGRAPH-F9B1|2IDEOGRAPH-F9B2|2IDEOGRAPH-F9B3|2IDEOGRAPH-F9B4|2IDEOGRAPH-F9B5",
  "2IDEOGRAPH-F9B6|2IDEOGRAPH-F9B7|2IDEOGRAPH-F9B8|2IDEOGRAPH-F9B9|2IDEOGRAPH-F9BA|2IDEOGRAPH-F9BB",
  "2IDEOGRAPH-F9BC|2IDEOGRAPH-F9BD|2IDEOGRAPH-F9BE|2IDEOGRAPH-F9BF|2IDEOGRAPH-F9C0|2IDEOGRAPH-F9C1",
  "2IDEOGRAPH-F9C2|2IDEOGRAPH-F9C3|2IDEOGRAPH-F9C4|2IDEOGRAPH-F9C5|2IDEOGRAPH-F9C6|2IDEOGRAPH-F9C7",
  "2IDEOGRAPH-F9C8|2IDEOGRAPH-F9C9|2IDEOGRAPH-F9CA|2IDEOGRAPH-F9CB|2IDEOGRAPH-F9CC|2IDEOGRAPH-F9CD",
  "2IDEOGRAPH-F9CE|2IDEOGRAPH-F9CF|2IDEOGRAPH-F9D0|2IDEOGRAPH-F9D1|2IDEOGRAPH-F9D2|2IDEOGRAPH-F9D3",
  "2IDEOGRAPH-F9D4|2IDEOGRAPH-F9D5|2IDEOGRAPH-F9D6|2IDEOGRAPH-F9D7|2IDEOGRAPH-F9D8|2IDEOGRAPH-F9D9",
  "2IDEOGRAPH-F9DA|2IDEOGRAPH-F9DB|2IDEOGRAPH-F9DC|2IDEOGRAPH-F9DD|2IDEOGRAPH-F9DE|2IDEOGRAPH-F9DF",
  "2IDEOGRAPH-F9E0|2IDEOGRAPH-F9E1|2IDEOGRAPH-F9E2|2IDEOGRAPH-F9E3|2IDEOGRAPH-F9E4|2IDEOGRAPH-F9E5",
  "2IDEOGRAPH-F9E6|2IDEOGRAPH-F9E7|2IDEOGRAPH-F9E8|2IDEOGRAPH-F9E9|2IDEOGRAPH-F9EA|2IDEOGRAPH-F9EB",
  "2IDEOGRAPH-F9EC|2IDEOGRAPH-F9ED|2IDEOGRAPH-F9EE|2IDEOGRAPH-F9EF|2IDEOGRAPH-F9F0|2IDEOGRAPH-F9F1",
  "2IDEOGRAPH-F9F2|2IDEOGRAPH-F9F3|2IDEOGRAPH-F9F4|2IDEOGRAPH-F9F5|2IDEOGRAPH-F9F6|2IDEOGRAPH-F9F7",
  "2IDEOGRAPH-F9F8|2IDEOGRAPH-F9F9|2IDEOGRAPH-F9FA|2IDEOGRAPH-F9FB|2IDEOGRAPH-F9FC|2IDEOGRAPH-F9FD",
  "2IDEOGRAPH-F9FE|2IDEOGRAPH-F9FF|2IDEOGRAPH-FA00|2IDEOGRAPH-FA01|2IDEOGRAPH-FA02|2IDEOGRAPH-FA03",
  "2IDEOGRAPH-FA04|2IDEOGRAPH-FA05|2IDEOGRAPH-FA06|2IDEOGRAPH-FA07|2IDEOGRAPH-FA08|2IDEOGRAPH-FA09",
  "2IDEOGRAPH-FA0A|2IDEOGRAPH-FA0B|2IDEOGRAPH-FA0C|2IDEOGRAPH-FA0D|2IDEOGRAPH-FA0E|2IDEOGRAPH-FA0F",
  "2IDEOGRAPH-FA10|2IDEOGRAPH-FA11|2IDEOGRAPH-FA12|2IDEOGRAPH-FA13|2IDEOGRAPH-FA14|2IDEOGRAPH-FA15",
  "2IDEOGRAPH-FA16|2IDEOGRAPH-FA17|2IDEOGRAPH-FA18|2IDEOGRAPH-FA19|2IDEOGRAPH-FA1A|2IDEOGRAPH-FA1B",
  "2IDEOGRAPH-FA1C|2IDEOGRAPH-FA1D|2IDEOGRAPH-FA1E|2IDEOGRAPH-FA1F|2IDEOGRAPH-FA20|2IDEOGRAPH-FA21",
  "2IDEOGRAPH-FA22|2IDEOGRAPH-FA23|2IDEOGRAPH-FA24|2IDEOGRAPH-FA25|2IDEOGRAPH-FA26|2IDEOGRAPH-FA27",
  "2IDEOGRAPH-FA28|2IDEOGRAPH-FA29|2IDEOGRAPH-FA2A|2IDEOGRAPH-FA2B|2IDEOGRAPH-FA2C|2IDEOGRAPH-FA2D",
  "2IDEOGRAPH-FA2E|2IDEOGRAPH-FA2F|2IDEOGRAPH-FA30|2IDEOGRAPH-FA31|2IDEOGRAPH-FA32|2IDEOGRAPH-FA33",
  "2IDEOGRAPH-FA34|2IDEOGRAPH-FA35|2IDEOGRAPH-FA36|2IDEOGRAPH-FA37|2IDEOGRAPH-FA38|2IDEOGRAPH-FA39",
  "2IDEOGRAPH-FA3A|2IDEOGRAPH-FA3B|2IDEOGRAPH-FA3C|2IDEOGRAPH-FA3D|2IDEOGRAPH-FA3E|2IDEOGRAPH-FA3F",
  "2IDEOGRAPH-FA40|2IDEOGRAPH-FA41|2IDEOGRAPH-FA42|2IDEOGRAPH-FA43|2IDEOGRAPH-FA44|2IDEOGRAPH-FA45",
  "2IDEOGRAPH-FA46|2IDEOGRAPH-FA47|2IDEOGRAPH-FA48|2IDEOGRAPH-FA49|2IDEOGRAPH-FA4A|2IDEOGRAPH-FA4B",
  "2IDEOGRAPH-FA4C|2IDEOGRAPH-FA4D|2IDEOGRAPH-FA4E|2IDEOGRAPH-FA4F|2IDEOGRAPH-FA50|2IDEOGRAPH-FA51",
  "2IDEOGRAPH-FA52|2IDEOGRAPH-FA53|2IDEOGRAPH-FA54|2IDEOGRAPH-FA55|2IDEOGRAPH-FA56|2IDEOGRAPH-FA57",
  "2IDEOGRAPH-FA58|2IDEOGRAPH-FA59|2IDEOGRAPH-FA5A|2IDEOGRAPH-FA5B|2IDEOGRAPH-FA5C|2IDEOGRAPH-FA5D",
  "2IDEOGRAPH-FA5E|2IDEOGRAPH-FA5F|2IDEOGRAPH-FA60|2IDEOGRAPH-FA61|2IDEOGRAPH-FA62|2IDEOGRAPH-FA63",
  "2IDEOGRAPH-FA64|2IDEOGRAPH-FA65|2IDEOGRAPH-FA66|2IDEOGRAPH-FA67|2IDEOGRAPH-FA68|2IDEOGRAPH-FA69",
  "2IDEOGRAPH-FA6A|2IDEOGRAPH-FA6B|2IDEOGRAPH-FA6C|2IDEOGRAPH-FA6D|2IDEOGRAPH-FA70|2IDEOGRAPH-FA71",
  "2IDEOGRAPH-FA72|2IDEOGRAPH-FA73|2IDEOGRAPH-FA74|2IDEOGRAPH-FA75|2IDEOGRAPH-FA76|2IDEOGRAPH-FA77",
  "2IDEOGRAPH-FA78|2IDEOGRAPH-FA79|2IDEOGRAPH-FA7A|2IDEOGRAPH-FA7B|2IDEOGRAPH-FA7C|2IDEOGRAPH-FA7D",
  "2IDEOGRAPH-FA7E|2IDEOGRAPH-FA7F|2IDEOGRAPH-FA80|2IDEOGRAPH-FA81|2IDEOGRAPH-FA82|2IDEOGRAPH-FA83",
  "2IDEOGRAPH-FA84|2IDEOGRAPH-FA85|2IDEOGRAPH-FA86|2IDEOGRAPH-FA87|2IDEOGRAPH-FA88|2IDEOGRAPH-FA89",
  "2IDEOGRAPH-FA8A|2IDEOGRAPH-FA8B|2IDEOGRAPH-FA8C|2IDEOGRAPH-FA8D|2IDEOGRAPH-FA8E|2IDEOGRAPH-FA8F",
  "2IDEOGRAPH-FA90|2IDEOGRAPH-FA91|2IDEOGRAPH-FA92|2IDEOGRAPH-FA93|2IDEOGRAPH-FA94|2IDEOGRAPH-FA95",
  "2IDEOGRAPH-FA96|2IDEOGRAPH-FA97|2IDEOGRAPH-FA98|2IDEOGRAPH-FA99|2IDEOGRAPH-FA9A|2IDEOGRAPH-FA9B",
  "2IDEOGRAPH-FA9C|2IDEOGRAPH-FA9D|2IDEOGRAPH-FA9E|2IDEOGRAPH-FA9F|2IDEOGRAPH-FAA0|2IDEOGRAPH-FAA1",
  "2IDEOGRAPH-FAA2|2IDEOGRAPH-FAA3|2IDEOGRAPH-FAA4|2IDEOGRAPH-FAA5|2IDEOGRAPH-FAA6|2IDEOGRAPH-FAA7",
  "2IDEOGRAPH-FAA8|2IDEOGRAPH-FAA9|2IDEOGRAPH-FAAA|2IDEOGRAPH-FAAB|2IDEOGRAPH-FAAC|2IDEOGRAPH-FAAD",
  "2IDEOGRAPH-FAAE|2IDEOGRAPH-FAAF|2IDEOGRAPH-FAB0|2IDEOGRAPH-FAB1|2IDEOGRAPH-FAB2|2IDEOGRAPH-FAB3",
  "2IDEOGRAPH-FAB4|2IDEOGRAPH-FAB5|2IDEOGRAPH-FAB6|2IDEOGRAPH-FAB7|2IDEOGRAPH-FAB8|2IDEOGRAPH-FAB9",
  "2IDEOGRAPH-FABA|2IDEOGRAPH-FABB|2IDEOGRAPH-FABC|2IDEOGRAPH-FABD|2IDEOGRAPH-FABE|2IDEOGRAPH-FABF",
  "2IDEOGRAPH-FAC0|2IDEOGRAPH-FAC1|2IDEOGRAPH-FAC2|2IDEOGRAPH-FAC3|2IDEOGRAPH-FAC4|2IDEOGRAPH-FAC5",
  "2IDEOGRAPH-FAC6|2IDEOGRAPH-FAC7|2IDEOGRAPH-FAC8|2IDEOGRAPH-FAC9|2IDEOGRAPH-FACA|2IDEOGRAPH-FACB",
  "2IDEOGRAPH-FACC|2IDEOGRAPH-FACD|2IDEOGRAPH-FACE|2IDEOGRAPH-FACF|2IDEOGRAPH-FAD0|2IDEOGRAPH-FAD1",
  "2IDEOGRAPH-FAD2|2IDEOGRAPH-FAD3|2IDEOGRAPH-FAD4|2IDEOGRAPH-FAD5|2IDEOGRAPH-FAD6|2IDEOGRAPH-FAD7",
  "2IDEOGRAPH-FAD8|2IDEOGRAPH-FAD9|1RADICAL BAMBOO|2BLUE|2BOLT OF CLOTH|2BONE|2BOX|2BRUSH ONE|3TWO",
  "2C-SIMPLIFIED BIRD|3CART|3DRAGON|3EAT|3EVEN|3FISH|3FLY|3FROG|3GATE|3GOLD|3HORSE|3LEAF|3LONG",
  "3SALT|3SEE|3SHELL|3SILK|3SPEECH|3TANNED LEATHER|3TOOTH|3TURTLE|3WIND|2CHOKE|2CITY|2CIVILIAN",
  "2CLIFF|2CLOTHES|2COW|2DEATH|2DIVINATION|2DOG|2EAT ONE|3THREE|3TWO|2EWE|2EYE|2FIRE|2FOOT|2GHOST",
  "2GRASS ONE|3THREE|3TWO|2HAND|2HEAD|2HEART ONE|3TWO|2HORN|2J-SIMPLIFIED DRAGON|3EVEN|3TOOTH",
  "3TURTLE|2JADE|2KNIFE ONE|3TWO|2LAME FOUR|3ONE|3THREE|3TWO|2LONG ONE|3TWO|2MEAT|2MESH|2MOON",
  "2MORTAR|2MOTHER|2MOUND ONE|3TWO|2NET FOUR|3ONE|3THREE|3TWO|2OLD|2PAW ONE|3TWO|2PERSON|2RAIN",
  "2RAM|2RAP|2REPEAT|2SEAL|2SECOND ONE|3THREE|3TWO|2SHEEP|2SILK|2SIMPLIFIED HALF TREE TRUNK|3HORN",
  "3WALK|3WHEAT|3YELLOW|2SMALL ONE|3TWO|2SNAKE|2SNOUT ONE|3TWO|2SPIRIT ONE|3TWO|2SUN|2TABLE",
  "2THREAD|2TIGER|2TURTLE|2WALK ONE|3TWO|2WATER ONE|3TWO|2WEST ONE|3TWO|1STROKE BXG|2D|2H|2HG|2HP",
  "2HPWG|2HXWG|2HZ|2HZG|2HZT|2HZW|2HZWG|2HZZ|2HZZP|2HZZZ|2HZZZG|2N|2P|2PD|2PG|2PZ|2Q|2S|2SG|2SP",
  "2ST|2SW|2SWG|2SWZ|2SZ|2SZWG|2SZZ|2T|2TN|2WG|2XG|0CLAMSHELL MOBILE PHONE|0CLAPPER BOARD",
  "0CLAPPING HANDS SIGN|0CLASSICAL BUILDING|0CLEAR SCREEN SYMBOL|0CLINKING BEER MUGS|1GLASSES",
  "0CLIPBOARD|0CLOCK FACE EIGHT OCLOCK|2EIGHT-THIRTY|2ELEVEN OCLOCK|2ELEVEN-THIRTY|2FIVE OCLOCK",
  "2FIVE-THIRTY|2FOUR OCLOCK|2FOUR-THIRTY|2NINE OCLOCK|2NINE-THIRTY|2ONE OCLOCK|2ONE-THIRTY",
  "2SEVEN OCLOCK|2SEVEN-THIRTY|2SIX OCLOCK|2SIX-THIRTY|2TEN OCLOCK|2TEN-THIRTY|2THREE OCLOCK",
  "2THREE-THIRTY|2TWELVE OCLOCK|2TWELVE-THIRTY|2TWO OCLOCK|2TWO-THIRTY",
  "0CLOCKWISE CLOSED CIRCLE ARROW|1CONTOUR INTEGRAL|1DOWNWARDS AND UPWARDS OPEN CIRCLE ARROWS",
  "1GAPPED CIRCLE ARROW|1INTEGRAL|1OPEN CIRCLE ARROW|1RIGHT AND LEFT SEMICIRCLE ARROWS",
  "1RIGHTWARDS AND LEFTWARDS OPEN CIRCLE ARROWS|7WITH CIRCLED ONE OVERLAY|1TOP SEMICIRCLE ARROW",
  "1TRIANGLE-HEADED OPEN CIRCLE ARROW|0CLOSE UP|0CLOSED BOOK|1INTERSECTION WITH SERIFS",
  "1LOCK WITH KEY|1MAILBOX WITH LOWERED FLAG|3RAISED FLAG|1SUBSET|2OR EQUAL TO|1SUPERSET",
  "2OR EQUAL TO|1UMBRELLA|1UNION WITH SERIFS|4AND SMASH PRODUCT|0CLOUD|1WITH LIGHTNING|2RAIN|2SNOW",
  "2TORNADO|0CLOWN FACE|0COAT|0COCKROACH|0COCKTAIL GLASS|0COCONUT|0COFFIN|0COIN|0COLLISION SYMBOL",
  "0COLON|1EQUALS|1SIGN|0COMBINING ACUTE ACCENT|3BELOW|2TONE MARK|1ACUTE-GRAVE-ACUTE|1ACUTE-MACRON",
  "1ALMOST EQUAL TO ABOVE|4BELOW|1ANNUITY SYMBOL|1ANTICLOCKWISE ARROW ABOVE|2RING OVERLAY",
  "1ASTERISK ABOVE|2BELOW|1BINDU BELOW|1BREVE|2BELOW|1BREVE-MACRON|1BRIDGE ABOVE|2BELOW",
  "1CANDRABINDU|1CARON|2BELOW|1CEDILLA|1CIRCUMFLEX ACCENT|3BELOW|1CLOCKWISE ARROW ABOVE",
  "2RING OVERLAY|1COMMA ABOVE|3RIGHT|2BELOW|1CONJOINING MACRON|3BELOW|1CYRILLIC DASIA PNEUMATA",
  "2HUNDRED MILLIONS SIGN|3THOUSANDS SIGN|2KAVYKA|2LETTER A|3BE|3BIG YUS|3CHE|3DE|3DJERV|3EF|3EL",
  "3EM|3EN|3ER|3ES|3ES-TE|3FITA|3GHE|3HA|3HARD SIGN|3I|3IE|3IOTIFIED A|4BIG YUS|4E|3KA|3LITTLE YUS",
  "3MONOGRAPH UK|3O|3OMEGA|3PE|3SHA|3SHCHA|3SOFT SIGN|3TE|3TSE|3U|3UKRAINIAN IE|3VE|3YAT|3YERU|3YI",
  "3YU|3ZE|3ZHE|2MILLIONS SIGN|2PALATALIZATION|2PAYEROK|2POKRYTIE|2PSILI PNEUMATA",
  "2TEN MILLIONS SIGN|2THOUSAND MILLIONS SIGN|2TITLO|3LEFT HALF|3RIGHT HALF|2VZMET|1DELETION MARK",
  "1DEVANAGARI DIGIT EIGHT|3FIVE|3FOUR|3NINE|3ONE|3SEVEN|3SIX|3THREE|3TWO|3ZERO|2LETTER A|3KA|3NA",
  "3PA|3RA|3U|3VI|2SIGN AVAGRAHA|1DIAERESIS|2BELOW|1DIAERESIS-RING|1DOT ABOVE|3LEFT|3RIGHT|2BELOW",
  "3LEFT|1DOTTED ACUTE ACCENT|2GRAVE ACCENT|1DOUBLE ACUTE ACCENT|2BREVE|3BELOW|2CIRCUMFLEX ABOVE",
  "2GRAVE ACCENT|2INVERTED BREVE|4BELOW|2LOW LINE|2MACRON|3BELOW|2OPEN MARK BELOW|2OVERLINE",
  "2PARENTHESES ABOVE|2PLUS SIGN ABOVE|4BELOW|2RIGHTWARDS ARROW BELOW|2RING BELOW|2TILDE",
  "3LEFT HALF|3RIGHT HALF|2VERTICAL LINE ABOVE|4BELOW|3STROKE OVERLAY|1DOUBLED CIRCUMFLEX ACCENT",
  "1DOWN TACK BELOW|1DOWNWARDS ARROW|1ENCLOSING CIRCLE|3BACKSLASH|2DIAMOND|2KEYCAP|2SCREEN|2SQUARE",
  "2UPWARD POINTING TRIANGLE|1EQUALS SIGN BELOW|1FERMATA|1FOUR DOTS ABOVE|1GLAGOLITIC LETTER AZU",
  "3BIG YUS|3BUKY|3CHRIVI|3DJERVI|3DOBRO|3FITA|3FRITU|3GLAGOLI|3HERU|3I|3INITIAL IZHE",
  "3IOTATED BIG YUS|4SMALL YUS|3IZHE|3KAKO|3LJUDIJE|3MYSLITE|3NASHI|3ONU|3POKOJI|3RITSI|3SHA|3SHTA",
  "3SLOVO|3SMALL YUS|3TSI|3TVRIDO|3UKU|3VEDE|3YATI|3YERI|3YERU|3YESTU|3YO|3YU|3ZEMLJA|3ZHIVETE",
  "1GRANTHA DIGIT FIVE|3FOUR|3ONE|3SIX|3THREE|3TWO|3ZERO|2LETTER A|3KA|3NA|3PA|3VI",
  "1GRAPHEME JOINER|1GRAVE ACCENT|3BELOW|2TONE MARK|1GRAVE-ACUTE-GRAVE|1GRAVE-MACRON",
  "1GREEK DIALYTIKA TONOS|2KORONIS|2MUSICAL PENTASEME|3TETRASEME|3TRISEME|2PERISPOMENI",
  "2YPOGEGRAMMENI|1HOMOTHETIC ABOVE|1HOOK ABOVE|1HORN|1INFINITY|1INVERTED BREVE|3BELOW",
  "2BRIDGE BELOW|2DOUBLE ARCH ABOVE|4BELOW|1IS BELOW|1KATAKANA-HIRAGANA SEMI-VOICED SOUND MARK",
  "2VOICED SOUND MARK|1KAVYKA ABOVE LEFT|3RIGHT|1LATIN LETTER SMALL CAPITAL G|5L|5M|5N|5R",
  "2SMALL LETTER A|5WITH DIAERESIS|4AE|4ALPHA|4AO|4AV|4B|4BETA|4C|5CEDILLA|4D|4E|4ESH|4ETH|4F",
  "4FLATTENED OPEN A ABOVE|4G|4H|4I|4INSULAR D|5G|5R|5T|4K|4L|5WITH DOUBLE MIDDLE TILDE|4LONG S|4M",
  "4N|4O|5WITH DIAERESIS|6LIGHT CENTRALIZATION STROKE|4P|4R|5BELOW|5ROTUNDA|4S|4SCHWA|4T",
  "4TURNED W BELOW|4U|5WITH DIAERESIS|6LIGHT CENTRALIZATION STROKE|4V|4W|5BELOW|4X|4Z",
  "1LEFT ANGLE ABOVE|3BELOW|2ARROW ABOVE|3BELOW|2ARROWHEAD ABOVE|3BELOW|2HALF RING ABOVE|4BELOW",
  "2HARPOON ABOVE|2PARENTHESIS ABOVE LEFT|3BELOW LEFT|2RIGHT ARROW ABOVE|4BELOW|2TACK BELOW",
  "1LEFTWARDS ARROW OVERLAY|2HARPOON WITH BARB DOWNWARDS|1LIGATURE LEFT HALF|4BELOW|2RIGHT HALF",
  "4BELOW|1LIGHT CENTRALIZATION STROKE BELOW|1LONG DOUBLE SOLIDUS OVERLAY|2SOLIDUS OVERLAY",
  "2STROKE OVERLAY|2VERTICAL LINE OVERLAY|1LOW LINE|1MACRON|2BELOW|2LEFT HALF|4BELOW|2RIGHT HALF",
  "4BELOW|1MACRON-ACUTE|1MACRON-BREVE|1MACRON-GRAVE|1MINUS SIGN BELOW|1NOT TILDE ABOVE",
  "1NUMBER SIGN ABOVE|1OGONEK|2ABOVE|1OLD PERMIC LETTER AN|4DOI|4NENOE|4SII|4ZATA|1OPEN MARK BELOW",
  "1OVERLINE|1PALATALIZED HOOK BELOW|1PARENTHESES ABOVE|2BELOW|2OVERLAY|1PLUS SIGN ABOVE|3BELOW",
  "1RETROFLEX HOOK BELOW|1REVERSE SOLIDUS OVERLAY|1REVERSED COMMA ABOVE|1RIGHT ARROW ABOVE|3BELOW",
  "2ARROWHEAD ABOVE|3AND DOWN ARROWHEAD BELOW|4UP ARROWHEAD BELOW|3BELOW|2HALF RING ABOVE|4BELOW",
  "2HARPOON ABOVE|2PARENTHESIS ABOVE RIGHT|3BELOW RIGHT|2TACK BELOW",
  "1RIGHTWARDS HARPOON WITH BARB DOWNWARDS|1RING ABOVE|2BELOW|2OVERLAY|1SEAGULL BELOW",
  "1SHORT SOLIDUS OVERLAY|2STROKE OVERLAY|2VERTICAL LINE OVERLAY|1SNAKE BELOW|1SQUARE BELOW",
  "2BRACKETS ABOVE|1STRONG CENTRALIZATION STROKE BELOW|1SUSPENSION MARK|1THREE DOTS ABOVE|1TILDE",
  "2BELOW|2LEFT HALF BELOW|2OVERLAY|2RIGHT HALF BELOW|1TRIPLE ACUTE ACCENT|2DOT|2UNDERDOT",
  "1TURNED COMMA ABOVE|1UP TACK ABOVE|3BELOW|1UPWARDS ARROW BELOW|1UR ABOVE|1US ABOVE",
  "1VERTICAL LINE ABOVE|3BELOW|2TILDE|1WIDE BRIDGE ABOVE|2INVERTED BRIDGE BELOW|1WIGGLY LINE BELOW",
  "1X ABOVE|2BELOW|1X-X BELOW|1ZIGZAG ABOVE|2BELOW|0COMET|0COMMA|0COMMERCIAL AT|1MINUS SIGN",
  "0COMPASS|0COMPLEMENT|0COMPOSITION SYMBOL|0COMPRESSION|0CONFETTI BALL|0CONFOUNDED FACE",
  "0CONFUSED FACE|0CONGRUENT WITH DOT ABOVE|0CONICAL TAPER|0CONJUNCTION|0CONSTRUCTION SIGN|1WORKER",
  "0CONTAINS AS MEMBER|2NORMAL SUBGROUP|4OR EQUAL TO|1WITH LONG HORIZONTAL STROKE|2OVERBAR",
  "2VERTICAL BAR AT END OF HORIZONTAL STROKE|0CONTINUOUS UNDERLINE SYMBOL|0CONTOUR INTEGRAL",
  "0CONTROL KNOBS|1SEQUENCE INTRODUCER|0CONVENIENCE STORE|0COOKED RICE|0COOKIE|0COOKING",
  "0COPTIC CAPITAL LETTER AKHMIMIC KHEI|3ALFA|3BOHAIRIC KHEI|3CROSSED SHEI|3CRYPTOGRAMMIC EIE",
  "4GANGIA|4NI|4SHEI|3DALDA|3DEI|3DIALECT-P ALEF|4HORI|4KAPA|4NI|3EIE|3FEI|3FI|3GAMMA|3GANGIA",
  "3HATE|3HORI|3IAUDA|3KAPA|3KHEI|3KHI|3KSI|3L-SHAPED HA|3LAULA|3MI|3NI|3O|3OLD COPTIC AIN|5DJA",
  "5ESH|5GANGIA|5HA|5HAT|5HEI|5HORI|5OOU|5SHEI|5SHIMA|4NUBIAN NGI|5NYI|5SHIMA|5WAU|3OOU|3PI|3PSI",
  "3RO|3SAMPI|3SHEI|3SHIMA|3SIMA|3SOU|3TAU|3THETHE|3UA|3VIDA|3ZATA|1COMBINING NI ABOVE",
  "2SPIRITUS ASPER|3LENIS|1EPACT DIGIT EIGHT|3FIVE|3FOUR|3NINE|3ONE|3SEVEN|3SIX|3THREE|3TWO",
  "2NUMBER EIGHT HUNDRED|3EIGHTY|3FIFTY|3FIVE HUNDRED|3FORTY|3FOUR HUNDRED|3NINE HUNDRED|3NINETY",
  "3ONE HUNDRED|3SEVEN HUNDRED|3SEVENTY|3SIX HUNDRED|3SIXTY|3TEN|3THIRTY|3THREE HUNDRED|3TWENTY",
  "3TWO HUNDRED|2THOUSANDS MARK|1FRACTION ONE HALF|1FULL STOP|1MORPHOLOGICAL DIVIDER",
  "1OLD NUBIAN DIRECT QUESTION MARK|3FULL STOP|3INDIRECT QUESTION MARK|3VERSE DIVIDER",
  "1SMALL LETTER AKHMIMIC KHEI|3ALFA|3BOHAIRIC KHEI|3CROSSED SHEI|3CRYPTOGRAMMIC EIE|4GANGIA|4NI",
  "4SHEI|3DALDA|3DEI|3DIALECT-P ALEF|4HORI|4KAPA|4NI|3EIE|3FEI|3FI|3GAMMA|3GANGIA|3HATE|3HORI",
  "3IAUDA|3KAPA|3KHEI|3KHI|3KSI|3L-SHAPED HA|3LAULA|3MI|3NI|3O|3OLD COPTIC AIN|5DJA|5ESH|5GANGIA",
  "5HA|5HAT|5HEI|5HORI|5OOU|5SHEI|5SHIMA|4NUBIAN NGI|5NYI|5SHIMA|5WAU|3OOU|3PI|3PSI|3RO|3SAMPI",
  "3SHEI|3SHIMA|3SIMA|3SOU|3TAU|3THETHE|3UA|3VIDA|3ZATA|1SYMBOL KAI|2KHI RO|2MI RO|2PI RO",
  "2SHIMA SIMA|2STAUROS|2TAU RO|0COPYLEFT SYMBOL|0COPYRIGHT SIGN|0CORAL|0CORNISH VERSE DIVIDER",
  "0CORRESPONDS TO|0COUCH AND LAMP|0COUNTERBORE|0COUNTERSINK|0COUNTING ROD TENS DIGIT EIGHT|4FIVE",
  "4FOUR|4NINE|4ONE|4SEVEN|4SIX|4THREE|4TWO|2UNIT DIGIT EIGHT|4FIVE|4FOUR|4NINE|4ONE|4SEVEN|4SIX",
  "4THREE|4TWO|0COUPLE WITH HEART|0COW|1FACE|0CR|0CRAB|0CREDIT CARD|0CRESCENT MOON|0CRICKET",
  "1BAT AND BALL|0CROCODILE|0CROISSANT|0CROSS MARK|1OF JERUSALEM|2LORRAINE",
  "1PATTY WITH LEFT CROSSBAR|3RIGHT CROSSBAR|1POMMEE|2WITH HALF-CIRCLE BELOW|0CROSSED FLAGS",
  "1NEGATIVE SQUARED LATIN CAPITAL LETTER P|1SWORDS|0CROSSING LANES|0CROWN|0CRUTCH|0CRUZEIRO SIGN",
  "0CRYING CAT FACE|1FACE|0CRYSTAL BALL|0CSI|0CUBE ROOT|0CUCUMBER",
  "0CUNEIFORM NUMERIC SIGN EIGHT ASH|4DISH|4GESH2|4SHAR2|4U|5VARIANT FORM|4VARIANT FORM USSU",
  "6USSU3|3ELAMITE FIFTY|4FORTY|4ONE THIRD|4TWO THIRDS|3FIVE ASH|5TENU|4BAN2|5VARIANT FORM|4BURU",
  "4DISH|4GESH2|4GESHU|4SHAR2|4SHARU|4SIXTHS DISH|4U|5VARIANT FORM|3FOUR ASH|5TENU|4BAN2",
  "5VARIANT FORM|4BURU|4DISH|4GESH2|4GESHU|4SHAR2|4SHARU|4U|5VARIANT FORM|4VARIANT FORM LIMMU|7A",
  "7B|6LIMMU4|3NIGIDAESH|3NIGIDAMIN|3NINE ASH|4DISH|4GESH2|4SHAR2|4U|5VARIANT FORM",
  "4VARIANT FORM ILIMMU|7A|6ILIMMU3|6ILIMMU4|3OLD ASSYRIAN ONE QUARTER|6SIXTH|3ONE BAN2|4BURU",
  "4EIGHTH ASH|4ESHE3|4GESH2|4GESHU|4HALF GUR|4QUARTER ASH|5GUR|4SHARU|4THIRD DISH|5VARIANT FORM A",
  "3SEVEN ASH|4DISH|4GESH2|4SHAR2|4U|5VARIANT FORM|4VARIANT FORM IMIN A|7B|6IMIN3",
  "3SHAR2 TIMES GAL PLUS DISH|7MIN|3SIX ASH|5TENU|4DISH|4GESH2|4SHAR2|4U|5VARIANT FORM",
  "4VARIANT FORM ASH9|3THREE ASH|5TENU|4BAN2|4BURU|5VARIANT FORM|4DISH|4GESH2|4GESHU|4SHAR2",
  "5VARIANT FORM|4SHARU|5VARIANT FORM|4VARIANT FORM ESH16|6ESH21|3TWO ASH|5TENU|4BAN2|4BURU|4ESHE3",
  "4GESH2|4GESHU|4SHAR2|4SHARU|4THIRDS DISH|5VARIANT FORM A|1PUNCTUATION SIGN DIAGONAL COLON",
  "4QUADCOLON|4TRICOLON|3OLD ASSYRIAN WORD DIVIDER|3VERTICAL COLON|1SIGN A|3TIMES A|4BAD",
  "4GAN2 TENU|4HA|4IGI|4LAGAR GUNU|4MUSH|4SAG|2A2|2AB|3GUNU|3TIMES ASH2|4DUN3 GUNU|4GAL|4GAN2 TENU",
  "4HA|4IGI GUNU|4IMIN|4LAGAB|4NUN|5TENU|4SHESH|4SHU2|4U PLUS U PLUS U|2AB2|3TIMES A|4BALAG",
  "4GAN2 TENU|4ME PLUS EN|4SHA3|4TAK4|2AD|3TIMES ESH2|2AK|3TIMES ERIN2|4SHITA PLUS GISH|2AL",
  "3TIMES AL|4DIM2|4GISH|4HA|4KAD3|4KI|4SHE|4USH|2ALAN|2ALEPH|2AMAR|3TIMES KUG|4SHE|2AN|3OVER AN",
  "3PLUS NAGA OPPOSING AN PLUS NAGA|5SQUARED|3THREE TIMES|2ANSHE|2APIN|2ARAD|3TIMES KUR|2ARKAB",
  "2ASAL2|2ASH|3KABA TENU|3OVER ASH OVER ASH|7CROSSING ASH OVER ASH OVER ASH",
  "5TUG2 OVER TUG2 TUG2 OVER TUG2 PAP|3ZIDA TENU|2ASH2|2ASHGAB|2BA|2BAD|3TIMES DISH TENU|2BAG3",
  "2BAHAR2|3TIMES AB2|4NI|4ZA|2BAL|3OVER BAL|2BALAG|2BAR|2BARA2|2BI|3TIMES A|4GAR|4IGI GUNU|2BU",
  "3CROSSING BU|3OVER BU AB|5TIMES NA2|5UN|2BULUG|3OVER BULUG|2BUR|2BUR2|2DA|3TIMES TAK4|2DAG",
  "3KISIM5 TIMES A PLUS MASH|5AMAR|5BALAG|5BI|5GA|6PLUS MASH|5GI|5GIR2|5GUD|5HA|5IR|6PLUS LU|5KAK",
  "5LA|5LU|6PLUS MASH2|5LUM|5NE|5PAP PLUS PAP|5SI|5TAK4|5U2 PLUS GIR2|7MASH|5USH|3TIMES KUR|2DAG3",
  "2DAM|2DAR|2DARA3|2DARA4|2DI|2DIB|2DIM|3TIMES IGI|4SHE|4U U U|2DIM2|3TIMES UD|2DIN",
  "3KASKAL U GUNU DISH|2DISH|3PLUS SHU|2DU|3GUNU|3OVER DU|3SHESHIG|2DUB|3TIMES ESH2|4SHE|2DUB2",
  "2DUG|3TIMES ANSHE|4ASH|5AT LEFT|4DIN|4DUN|4ERIN2|4GA|4GI|4GIR2 GUNU|4GISH|4HA|4HI|4IGI GUNU",
  "4KASKAL|4KUR|4KUSHU2|5PLUS KASKAL|4LAK-020|4LAM|5TIMES KUR|4LUH PLUS GISH|4MASH|4MES|4MI|4NI",
  "4PI|4SHE|4SI GUNU|2DUGUD|2DUH|2DUN|2DUN3|3GUNU|4GUNU|2DUN4|2DUR2|2E|3OVER E NUN OVER NUN",
  "3TIMES PAP|2E2|3TIMES A PLUS HA PLUS DA|4GAR|4KUR|4MI|4PAP|4SAL|4SHE|4U|2EDIN|2EGIR|2EL|2EN",
  "3CROSSING EN|3OPPOSING EN|3SQUARED|3TIMES GAN2|5TENU|4ME|2EREN|2ERIN2|3X|2ESH2|3CROSSING ESH2",
  "2EZEN|3SHESHIG TIMES ASH|5HI|5IGI GUNU|5LA|5LAL|5ME|5MES|5SU|3TIMES A|5PLUS LAL|7TIMES LAL|4AN",
  "4BAD|4DUN3 GUNU|6GUNU|4GUD|4HA|5GUNU|4IGI GUNU|4KASKAL|5SQUARED|4KU3|4LA|4LAL TIMES LAL|4LI|4LU",
  "4SHE|4SU|4U2|4UD|2GA|3GUNU|2GA2|3OVER GA2|3TIMES A PLUS DA PLUS HA|6HA|6IGI|4AB2 TENU PLUS TAB",
  "4AN|5PLUS KAK PLUS A|4ASH|4ASH2|5PLUS GAL|4BAD|4BAHAR2|4BAR PLUS RA|4BUR|5PLUS RA|4DA|4DI",
  "4DIM GUNU|5TIMES SHE|4DUB|4DUG TIMES IGI GUNU|6KASKAL|4EL|5PLUS LA|4EN|5TIMES GAN2 TENU|4EREN",
  "4GA|4GAN2 TENU|4GAR|5PLUS DI|6NE|4GI|4GI4|5PLUS A|4GIR2 PLUS SU|4HA PLUS A|6LU PLUS ESH2|4HAL",
  "5PLUS LA|4HI PLUS LI|4HUB2|4IGI GUNU|4ISH PLUS HU PLUS ASH|4KAK|4KASKAL|4KID|5PLUS LAL",
  "4KU3 PLUS AN|4KUSHU2 PLUS KASKAL|4LA|4LAM|5TIMES KUR|4LUH|4ME PLUS EN|4MI|4MUSH|4NE|5PLUS E2",
  "6GI|4NUN|5OVER NUN|4PA|4SAL|4SAR|4SHE|5PLUS TUR|4SHID|4SHIM|4SUM|4TAK4|4U|4UD|5PLUS DU|4ZIZ2",
  "2GABA|3CROSSING GABA|3ROTATED NINETY DEGREES|2GAD|3OVER GAD GAR OVER GAR|2GAL",
  "3GAD OVER GAD GAR OVER GAR|2GALAM|2GAM|2GAN|2GAN2|3CROSSING GAN2|3OVER GAN2|3TENU|2GAR|2GAR3",
  "2GASHAN|2GE22|2GESHTIN|3TIMES KUR|4U|2GI|3CROSSING GI|3TIMES E|4U|2GI4|3CROSSING GI4|3OVER GI4",
  "2GIDIM|2GIG|2GIR2|3GUNU|2GIR3|3TIMES A PLUS IGI|4GAN2 TENU|4IGI|4LU PLUS IGI|4PA|2GISAL|2GISH",
  "3CROSSING GISH|3TENU|3TIMES BAD|4GISH CROSSING GISH|4TAK4|2GU|3CROSSING GU|2GU2|3GUNU",
  "3TIMES IGI GUNU|4KAK|5TIMES IGI GUNU|4NUN|4SAL PLUS TUG2|2GUD|3OVER GUD LUGAL",
  "3PLUS GISH TIMES TAK4|3TIMES A PLUS KUR|4KUR|2GUL|2GUM|3TIMES SHE|2GUR|2GUR7|2GURUN|2GURUSH|2HA",
  "3GUNU|3TENU|4GUNU|2HAL|2HI|3TIMES ASH|5OVER HI TIMES ASH|4ASH2|4BAD|4DISH|4GAD|4KIN|4NUN|4SHE",
  "4U|2HU|2HUB2|3TIMES AN|4HAL|4KASKAL|4LISH|4UD|2HUL2|2HUSH|2I|3A|2IB|2IDIM|3OVER IDIM BUR",
  "5SQUARED|2IG|2IGI|3DIB|3GUNU|3OVER IGI SHIR OVER SHIR UD OVER UD|3RI|2IL|3TIMES GAN2 TENU|2IL2",
  "2IM|3CROSSING IM|3OPPOSING IM|3SQUARED|3TIMES TAK4|2IMIN|2IN|2IR|2ISH|2KA|3TIMES A|4AD",
  "5PLUS KU3|4ANSHE|4ASH2|4ASH3|4BAD|4BALAG|4BAR|4BI|4BU|4ERIN2|4ESH2|4GA|4GAL|4GAN2 TENU|4GAR",
  "5PLUS SHA3 PLUS A|4GI|4GIR2|4GISH|5CROSSING GISH|5PLUS SAR|4GU|4GUD|4GUR7|4HI TIMES ASH2|4IGI",
  "4IM|4KA|4KAK|4KI|4KID|4LI|4LU|4LUM|4ME|5PLUS DU|6GI|6TE|4MI|5PLUS NUNUZ|4NE|4NUN|4PA|4PI|4RU",
  "4SA|4SAR|4SHA|4SHE|4SHID|4SHU|4SHUL|4SIG|4SUHUR|4TAR|4TU|4U|5U U|4U2|4UD|4UMUM TIMES PA|4UR",
  "4UR2|4USH|4ZI|2KA2|3CROSSING KA2|2KAB|2KAD2|2KAD3|2KAD4|2KAD5|3OVER KAD5|2KAK|3TIMES IGI GUNU",
  "2KAL|3CROSSING KAL|3TIMES BAD|2KAM2|2KAM4|2KAP ELAMITE|2KASKAL",
  "3LAGAB TIMES U OVER LAGAB TIMES U|3OVER KASKAL LAGAB TIMES U OVER LAGAB TIMES U|2KESH2|2KI",
  "3TIMES BAD|4U|4UD|2KID|2KIN|2KISAL|2KISH|2KISIM5|3OVER KISIM5|2KU",
  "3OVER HI TIMES ASH2 KU OVER HI TIMES ASH2|2KU3|2KU4|3VARIANT FORM|2KU7|2KUL|3GUNU|2KUN|2KUR",
  "3OPPOSING KUR|2KUSHU2|2KWU318|2LA|2LAGAB|3SQUARED|3TIMES A|5PLUS DA PLUS HA|6GAR|6LAL|4AL|4AN",
  "4ASH ZIDA TENU|4BAD|4BI|4DAR|4EN|4GA|4GAR|4GI|4GUD|5PLUS GUD|4HA|4HAL|4HI TIMES NUN|4IGI GUNU",
  "4IM|5PLUS HA|6LU|4KI|4KIN|4KU3|4KUL|5PLUS HI PLUS A|4LAGAB|4LISH|4LU|4LUL|4ME|5PLUS EN|4MUSH",
  "4NE|4SHE PLUS SUM|4SHITA PLUS GISH PLUS ERIN2|7TENU|4SHU2|5PLUS SHU2|4SUM|4TAG|4TAK4",
  "4TE PLUS A PLUS SU PLUS NA|4U|5PLUS A|6U PLUS U|4U2 PLUS ASH|4UD|4USH|4ZU OVER ZU|2LAGAR|3GUNU",
  "4OVER LAGAR GUNU SHE|3TIMES SHE|5PLUS SUM|2LAHSHU|2LAK-003|2LAK-021|2LAK-025|2LAK-030|2LAK-050",
  "2LAK-051|2LAK-062|2LAK-079 OVER LAK-079 GUNU|2LAK-080|2LAK-081 OVER LAK-081|2LAK-092|2LAK-130",
  "2LAK-142|2LAK-210|2LAK-219|2LAK-220|2LAK-225|2LAK-228|2LAK-238|2LAK-265|2LAK-266|2LAK-343",
  "2LAK-347|2LAK-348|2LAK-383|2LAK-384|2LAK-390|2LAK-441|2LAK-449|3TIMES GU|4IGI|4PAP PLUS LU3",
  "6PAP PLUS LU3|4U2 PLUS BA|2LAK-450|2LAK-457|2LAK-470|2LAK-483|2LAK-490|2LAK-492|2LAK-493",
  "2LAK-495|2LAK-550|2LAK-608|2LAK-617|3TIMES ASH|4BAD|4DUN3 GUNU GUNU|4KU3|4LA|4TAR|4TE|4U2|4UD",
  "4URUDA|2LAK-636|2LAK-648|3TIMES DUB|4GA|4IGI|5GUNU|4NI|4PAP PLUS PAP PLUS LU3|4SHESH PLUS KI",
  "4UD|4URUDA|2LAK-724|2LAK-749|2LAL|3TIMES LAL|2LAM|3TIMES KUR|5PLUS RU|2LI|2LIL|2LIMMU2|2LISH",
  "2LU|3TIMES BAD|2LU2|3CROSSING LU2|3GUNU TIMES ASH|3OPPOSING LU2|3SHESHIG|4TIMES BAD|3SQUARED",
  "3TENU|3TIMES AL|4BAD|4DISH|4ESH2|5PLUS LAL|5TENU|4GAN2 TENU|4HAL|4HI TIMES BAD|4IM|4KAD2|4KAD3",
  "5PLUS ASH|4KI|4LA PLUS ASH|4LAGAB|4ME PLUS EN|4NE|4NU|4PAP|5PLUS PAP PLUS LU3|4SHU|4SI PLUS ASH",
  "4SIK2 PLUS BU|4TAK4|4TUG2|2LU3|2LUGAL|3OPPOSING LUGAL|3OVER LUGAL|3SHESHIG|2LUH|2LUL|2LUM",
  "3OVER LUM|5GAR OVER GAR|2MA|3GUNU|3TIMES TAK4|2MA2|2MAH|2MAR|2MASH|2MASH2|2ME|2MES|2MESH|2MI",
  "3PLUS ZA7|2MIN|2MU|3OVER MU|2MUG|3GUNU|2MUNSUB|2MURGU2|2MUSH|3CROSSING MUSH|3OVER MUSH",
  "5TIMES A PLUS NA|6GA|6KAK|3TIMES A|4KUR|4ZA|2MUSH3|3GUNU|3TIMES A|5PLUS DI|4DI|4ZA|2NA|2NA2",
  "2NA4|2NAGA|3INVERTED|3OPPOSING NAGA|3TIMES SHU TENU|2NAGAR|2NAM|3NUTILLU|2NAM2|2NE|3SHESHIG",
  "3TIMES A|4UD|2NI|3TIMES E|2NI2|2NIM|3TIMES GAN2 TENU|4GAR PLUS GAN2 TENU|2NIN|2NIN9|2NINDA2",
  "3TIMES AN|4ASH|5PLUS ASH|4BAL|4DIM GUNU|4GI|4GISH|4GUD|4GUL|4HI|4KESH2|4LAK-050|4MASH",
  "4ME PLUS GAN2 TENU|4NE|4NUN|4PAP PLUS PAP|4SHE|5PLUS A AN|6ASH|7PLUS ASH|4U|5PLUS U",
  "4U2 PLUS ASH|4URUDA|4USH|2NISAG|2NU|2NU11|3OVER NU11 BUR OVER BUR|3ROTATED NINETY DEGREES|3TENU",
  "2NUN|3CROSSING NUN|5LAGAR OVER LAGAR|3LAGAR TIMES GAR|5MASH|5SAL|6OVER NUN LAGAR TIMES SAL|5USH",
  "3OVER NUN|3TENU|2NUNUZ|3AB2 TIMES ASHGAB|5BI|5DUG|5GUD|5IGI GUNU|5KAD3|5LA|5NE|5SILA3|5U2",
  "3KISIM5 TIMES BI|6U|2PA|2PAD|2PAN|2PAP|2PESH2|3ASTERISK|2PI|3CROSSING PI|3TIMES A|4AB|4BI|4BU",
  "4E|4I|4IB|4U|4U2|2PIR2|2PIRIG|3OPPOSING PIRIG|3TIMES KAL|4UD|4ZA|2RA|2RAB|2RI|2RU|2SA|2SAG",
  "3GUNU|4TIMES HA|3NUTILLU|3OVER SAG|3TIMES A|4DU|4DUB|4EN|4HA|4IGI GUNU|4KAK|4KUR|4LUM|4MI|4NUN",
  "4SAL|4SHE AT LEFT|4SHID|4TAB|4TAK4|4U2|4UB|4UM|4UR|4USH|2SAL|3LAGAB TIMES ASH2|2SANGA2|2SAR",
  "2SHA|2SHA3|3TIMES A|4BAD|4GISH|4NE|4SHU2|4TUR|4U|5PLUS A|2SHA6|3TENU|2SHAB6|2SHAR2|2SHE|3HU",
  "3OVER SHE|5GAD OVER GAD GAR OVER GAR|5TAB OVER TAB GAR OVER GAR|3PLUS HUB2|4NAM2|4SAR|2SHEG9",
  "2SHEN|2SHESH|2SHESH2|2SHESHLAM|2SHID|3TIMES A|4IM|2SHIM|3TIMES A|4BAL|4BULUG|4DIN|4GAR|4IGI",
  "5GUNU|4KUSHU2|4LUL|4MUG|4SAL|2SHINIG|2SHIR|3OVER SHIR BUR OVER BUR|3TENU|2SHITA|2SHU",
  "3OVER INVERTED SHU|2SHU2|3PLUS DUG TIMES NI|4E2 TIMES AN|2SHUBUR|2SI|3GUNU|3TIMES TAK4|2SIG",
  "2SIG4|3OVER SIG4 SHU2|2SIK2|2SILA3|2SU|3OVER SU|2SUD|2SUD2|2SUHUR|2SUM|2SUMASH|2SUR|2SUR9|2TA",
  "3ASTERISK|3GUNU|3TIMES HI|4MI|2TAB|3OVER TAB NI OVER NI DISH OVER DISH|3SQUARED|2TAG|3TIMES BI",
  "4GUD|4SHE|4SHU|4TUG2|4UD|2TAK4|3PLUS SAG|2TAR|2TE|3GUNU|2TI|3TENU|2TI2|2TIL|2TIR|3OVER TIR",
  "5GAD OVER GAD GAR OVER GAR|3TIMES TAK4|2TU|2TUG2|2TUK|2TUM|3TIMES GAN2 TENU|4THREE DISH|2TUR",
  "3OVER TUR ZA OVER ZA|2U|3GUD|3OVER U PA OVER PA GAR OVER GAR|5SUR OVER SUR",
  "5U REVERSED OVER U REVERSED|3U|4U|2U2|2UB|2UD|3GUNU|3KUSHU2|3SHESHIG|4TIMES BAD|3TIMES BAD|4MI",
  "4U PLUS U PLUS U|9GUNU|2UDUG|2UM|3TIMES LAGAB|4ME|5PLUS DA|4SHA3|4U|2UMBIN|2UMUM|3TIMES KASKAL",
  "4PA|2UN|3GUNU|2UR|3CROSSING UR|3SHESHIG|2UR2|3INVERTED|3TIMES A PLUS HA|6NA|4AL|4HA|4NUN|4U2",
  "5PLUS ASH|6BI|4UD|2UR4|2URI|2URI3|2URU|3TIMES A|4ASHGAB|4BAR|4DARA3|4DUN|4GA|4GAL|4GAN2 TENU",
  "4GAR|4GU|4HA|4IGI|4IM|4ISH|4KI|4LAK-668|4LU3|4LUM|4MIN|4PA|4SHE|4SIG4|4TU|4U PLUS GUD|4UD",
  "4URUDA|2URUDA|3TIMES U|2USH|3TIMES A|4KU|4KUR|4TAK4|2USH2|2USHUMX|2USHX|2UTUKI|2UZ3",
  "3TIMES KASKAL|2UZU|2ZA|3SQUARED TIMES KUR|3TENU|2ZA7|2ZAG|2ZAMX|2ZE2|2ZI|3OVER ZI|2ZI3|2ZIB",
  "3KABA TENU|2ZIG|2ZIZ2|2ZU|3OVER ZU PLUS SAR|2ZU5|3TIMES A|4THREE DISH TENU|2ZUBUR|2ZUM",
  "0CUP ON BLACK SQUARE|1WITH STRAW|0CUPCAKE|0CUPIDO|0CURLING STONE|0CURLY BRACKET EXTENSION",
  "1LOGICAL AND|2OR|1LOOP|0CURRENCY EXCHANGE|1SIGN|0CURRY AND RICE",
  "0CURVED STEM PARAGRAPH SIGN ORNAMENT|0CUSTARD|0CUSTOMS|0CUT OF MEAT|0CYCLONE|0CYLINDRICITY",
  "0CYPRIOT SYLLABLE A|2E|2I|2JA|2JO|2KA|2KE|2KI|2KO|2KU|2LA|2LE|2LI|2LO|2LU|2MA|2ME|2MI|2MO|2MU",
  "2NA|2NE|2NI|2NO|2NU|2O|2PA|2PE|2PI|2PO|2PU|2RA|2RE|2RI|2RO|2RU|2SA|2SE|2SI|2SO|2SU|2TA|2TE|2TI",
  "2TO|2TU|2U|2WA|2WE|2WI|2WO|2XA|2XE|2ZA|2ZO|0CYPRO-MINOAN SIGN CM001|2CM002|2CM004|2CM005|2CM006",
  "2CM007|2CM008|2CM009|2CM010|2CM011|2CM012|2CM012B|2CM013|2CM015|2CM017|2CM019|2CM021|2CM023",
  "2CM024|2CM025|2CM026|2CM027|2CM028|2CM029|2CM030|2CM033|2CM034|2CM035|2CM036|2CM037|2CM038",
  "2CM039|2CM040|2CM041|2CM044|2CM046|2CM047|2CM049|2CM050|2CM051|2CM052|2CM053|2CM054|2CM055",
  "2CM056|2CM058|2CM059|2CM060|2CM061|2CM062|2CM063|2CM064|2CM066|2CM067|2CM068|2CM069|2CM070",
  "2CM071|2CM072|2CM073|2CM074|2CM075|2CM075B|2CM076|2CM078|2CM079|2CM080|2CM081|2CM082|2CM083",
  "2CM084|2CM085|2CM086|2CM087|2CM088|2CM089|2CM090|2CM091|2CM092|2CM094|2CM095|2CM096|2CM097",
  "2CM098|2CM099|2CM100|2CM101|2CM102|2CM103|2CM104|2CM105|2CM107|2CM108|2CM109|2CM110|2CM112",
  "2CM114|2CM301|2CM302|0CYRILLIC CAPITAL LETTER A|4WITH BREVE|5DIAERESIS|3ABKHASIAN CHE",
  "5WITH DESCENDER|4DZE|4HA|3ALEUT KA|3BARRED O|5WITH DIAERESIS|3BASHKIR KA|3BE|3BIG YUS",
  "3BINOCULAR O|3BLENDED YUS|3BROAD OMEGA|3BYELORUSSIAN-UKRAINIAN I|3CCHE|3CHE|4WITH DESCENDER",
  "5DIAERESIS|5VERTICAL STROKE|3CLOSED LITTLE YUS|3CROSSED O|3DCHE|3DE|3DJE|3DJERV",
  "3DOUBLE MONOCULAR O|4O|3DWE|3DZE|3DZELO|3DZHE|3DZWE|3DZZE|3DZZHE|3E|4WITH DIAERESIS|3EF|3EL",
  "4WITH DESCENDER|5HOOK|5MIDDLE HOOK|5TAIL|3EM|4WITH TAIL|3EN|4WITH DESCENDER|5HOOK|5LEFT HOOK",
  "5MIDDLE HOOK|5TAIL|3ER|4WITH TICK|3ES|4WITH DESCENDER|3FITA|3GHE|4WITH DESCENDER|5MIDDLE HOOK",
  "5STROKE|6AND HOOK|5UPTURN|3GJE|3HA|4WITH DESCENDER|5HOOK|5STROKE|3HARD SIGN|3HWE|3I",
  "4WITH DIAERESIS|5GRAVE|5MACRON|3IE|4WITH BREVE|5GRAVE|3IO|3IOTA|3IOTIFIED A|4BIG YUS",
  "4CLOSED LITTLE YUS|4E|4LITTLE YUS|4YAT|3IZHITSA|4WITH DOUBLE GRAVE ACCENT|3JE|3KA",
  "4WITH DESCENDER|5HOOK|5STROKE|5VERTICAL STROKE|3KHAKASSIAN CHE|3KJE|3KOMI DE|4DJE|4DZJE|4LJE",
  "4NJE|4SJE|4TJE|4ZJE|3KOPPA|3KSI|3LHA|3LITTLE YUS|3LJE|3MONOCULAR O|3MONOGRAPH UK|3NEUTRAL YER",
  "3NJE|3O|4WITH DIAERESIS|3OMEGA|4WITH TITLO|3OT|3PE|4WITH DESCENDER|5MIDDLE HOOK|3PSI|3QA",
  "3REVERSED DZE|4TSE|4YU|4ZE|3RHA|3ROUND OMEGA|3SCHWA|4WITH DIAERESIS|3SEMISOFT SIGN|3SHA|3SHCHA",
  "3SHHA|4WITH DESCENDER|3SHORT I|5WITH TAIL|4U|3SHWE|3SOFT DE|4EL|4EM|4SIGN|3STRAIGHT U",
  "5WITH STROKE|3TCHE|3TE|4WITH DESCENDER|5MIDDLE HOOK|3TSE|3TSHE|3TSSE|3TSWE|3TWE|3U",
  "4WITH DIAERESIS|5DOUBLE ACUTE|5MACRON|3UK|3UKRAINIAN IE|3VE|3WE|3YA|3YAE|3YAT|3YERU",
  "4WITH BACK YER|5DIAERESIS|3YI|3YN|3YU|3ZE|4WITH DESCENDER|5DIAERESIS|3ZEMLYA|3ZHE|4WITH BREVE",
  "5DESCENDER|5DIAERESIS|3ZHWE|2LIGATURE A IE|3EN GHE|3TE TSE|1KAVYKA|1LETTER MULTIOCULAR O",
  "2PALOCHKA|2SMALL CAPITAL EL|1PAYEROK|1SMALL LETTER A|4WITH BREVE|5DIAERESIS|3ABKHASIAN CHE",
  "5WITH DESCENDER|4DZE|4HA|3ALEUT KA|3BARRED O|5WITH DIAERESIS|3BASHKIR KA|3BE|3BIG YUS",
  "3BINOCULAR O|3BLENDED YUS|3BROAD OMEGA|3BYELORUSSIAN-UKRAINIAN I|3CCHE|3CHE|4WITH DESCENDER",
  "5DIAERESIS|5VERTICAL STROKE|3CLOSED LITTLE YUS|3CROSSED O|3DCHE|3DE|3DJE|3DJERV",
  "3DOUBLE MONOCULAR O|4O|3DWE|3DZE|3DZELO|3DZHE|3DZWE|3DZZE|3DZZHE|3E|4WITH DIAERESIS|3EF|3EL",
  "4WITH DESCENDER|5HOOK|5MIDDLE HOOK|5TAIL|3EM|4WITH TAIL|3EN|4WITH DESCENDER|5HOOK|5LEFT HOOK",
  "5MIDDLE HOOK|5TAIL|3ER|4WITH TICK|3ES|4WITH DESCENDER|3FITA|3GHE|4WITH DESCENDER|5MIDDLE HOOK",
  "5STROKE|6AND HOOK|5UPTURN|3GJE|3HA|4WITH DESCENDER|5HOOK|5STROKE|3HARD SIGN|3HWE|3I",
  "4WITH DIAERESIS|5GRAVE|5MACRON|3IE|4WITH BREVE|5GRAVE|3IO|3IOTA|3IOTIFIED A|4BIG YUS",
  "4CLOSED LITTLE YUS|4E|4LITTLE YUS|4YAT|3IZHITSA|4WITH DOUBLE GRAVE ACCENT|3JE|3KA",
  "4WITH DESCENDER|5HOOK|5STROKE|5VERTICAL STROKE|3KHAKASSIAN CHE|3KJE|3KOMI DE|4DJE|4DZJE|4LJE",
  "4NJE|4SJE|4TJE|4ZJE|3KOPPA|3KSI|3LHA|3LITTLE YUS|3LJE|3LONG-LEGGED DE|3MONOCULAR O",
  "3MONOGRAPH UK|3NARROW O|3NEUTRAL YER|3NJE|3O|4WITH DIAERESIS|3OMEGA|4WITH TITLO|3OT|3PALOCHKA",
  "3PE|4WITH DESCENDER|5MIDDLE HOOK|3PSI|3QA|3REVERSED DZE|4TSE|4YU|4ZE|3RHA|3ROUND OMEGA",
  "3ROUNDED VE|3SCHWA|4WITH DIAERESIS|3SEMISOFT SIGN|3SHA|3SHCHA|3SHHA|4WITH DESCENDER|3SHORT I",
  "5WITH TAIL|4U|3SHWE|3SOFT DE|4EL|4EM|4SIGN|3STRAIGHT U|5WITH STROKE|3TALL HARD SIGN|4TE|4YAT",
  "3TCHE|3TE|4WITH DESCENDER|5MIDDLE HOOK|3THREE-LEGGED TE|3TSE|3TSHE|3TSSE|3TSWE|3TWE|3U",
  "4WITH DIAERESIS|5DOUBLE ACUTE|5MACRON|3UK|3UKRAINIAN IE|3UNBLENDED UK|3VE|3WE|3WIDE ES|3YA|3YAE",
  "3YAT|3YERU|4WITH BACK YER|5DIAERESIS|3YI|3YN|3YU|3ZE|4WITH DESCENDER|5DIAERESIS|3ZEMLYA|3ZHE",
  "4WITH BREVE|5DESCENDER|5DIAERESIS|3ZHWE|2LIGATURE A IE|3EN GHE|3TE TSE|1THOUSANDS SIGN"]

def namesFromD : List String := [
  "0DAGGER|1KNIFE|1WITH LEFT GUARD|2RIGHT GUARD|0DALET SYMBOL|0DANCER|0DANGO|0DARK SHADE",
  "1SUNGLASSES|0DASH SYMBOL|1WITH LEFT UPTURN|0DASHED LOW LINE|1OVERLINE",
  "1TRIANGLE-HEADED RIGHTWARDS ARROW|0DATA LINK ESCAPE|0DC1|0DC2|0DC3|0DC4|0DCS|0DEAF PERSON",
  "0DECIDUOUS TREE|0DECIMAL EXPONENT SYMBOL|1SEPARATOR KEY SYMBOL|0DECREASE FONT SIZE SYMBOL|0DEER",
  "0DEGREE CELSIUS|1FAHRENHEIT|1SIGN|0DEL|0DELETE|0DELIVERY TRUCK|0DELTA EQUAL TO",
  "0DENTISTRY SYMBOL LIGHT DOWN AND HORIZONTAL|6WITH CIRCLE|7TRIANGLE|7WAVE|3UP AND HORIZONTAL",
  "6WITH CIRCLE|7TRIANGLE|7WAVE|3VERTICAL AND BOTTOM LEFT|6RIGHT|5TOP LEFT|6RIGHT|5WAVE",
  "4WITH CIRCLE|5TRIANGLE|0DEPARTMENT STORE|0DERELICT HOUSE BUILDING|0DESCENDING NODE",
  "0DESERET CAPITAL LETTER AY|3BEE|3CHEE|3DEE|3EF|3EL|3EM|3EN|3ENG|3ER|3ES|3ESH|3ETH|3EW|3GAY|3H",
  "3JEE|3KAY|3LONG A|4AH|4E|4I|4O|4OO|3OI|3OW|3PEE|3SHORT A|4AH|4E|4I|4O|4OO|3TEE|3THEE|3VEE|3WU",
  "3YEE|3ZEE|3ZHEE|1SMALL LETTER AY|3BEE|3CHEE|3DEE|3EF|3EL|3EM|3EN|3ENG|3ER|3ES|3ESH|3ETH|3EW",
  "3GAY|3H|3JEE|3KAY|3LONG A|4AH|4E|4I|4O|4OO|3OI|3OW|3PEE|3SHORT A|4AH|4E|4I|4O|4OO|3TEE|3THEE",
  "3VEE|3WU|3YEE|3ZEE|3ZHEE|0DESERT|1ISLAND|0DESKTOP COMPUTER|1WINDOW",
  "0DEVANAGARI ABBREVIATION SIGN|1ACUTE ACCENT|1CARET|1DANDA|1DIGIT EIGHT|2FIVE|2FOUR|2NINE|2ONE",
  "2SEVEN|2SIX|2THREE|2TWO|2ZERO|1DOUBLE DANDA|1GAP FILLER|1GRAVE ACCENT|1HEADSTROKE|1JAIN OM",
  "1LETTER A|2AA|2AI|2AU|2AW|2AY|2BA|2BBA|2BHA|2CA|2CANDRA A|3E|3O|2CHA|2DA|2DDA|2DDDA|2DDDHA",
  "2DDHA|2DHA|2E|2FA|2GA|2GGA|2GHA|2GHHA|2GLOTTAL STOP|2HA|2HEAVY YA|2I|2II|2JA|2JHA|2JJA|2KA|2KHA",
  "2KHHA|2LA|2LLA|2LLLA|2MA|2MARWARI DDA|2NA|2NGA|2NNA|2NNNA|2NYA|2O|2OE|2OOE|2PA|2PHA|2QA|2RA",
  "2RHA|2RRA|2SA|2SHA|2SHORT A|3E|3O|2SSA|2TA|2THA|2TTA|2TTHA|2U|2UE|2UU|2UUE|2VA|2VOCALIC L|3LL",
  "3R|3RR|2YA|2YYA|2ZA|2ZHA|1OM|1SIGN ANUSVARA|2AVAGRAHA|2CANDRABINDU|3AVAGRAHA|3THREE|3TWO",
  "3VIRAMA|2DOUBLE CANDRABINDU VIRAMA|2HIGH SPACING DOT|2INVERTED CANDRABINDU|2NUKTA|2PUSHPIKA",
  "2SIDDHAM|2SPACING CANDRABINDU|2VIRAMA|2VISARGA|1STRESS SIGN ANUDATTA|3UDATTA|1VOWEL SIGN AA|3AI",
  "3AU|3AW|3AY|3CANDRA E|4LONG E|4O|3E|3I|3II|3O|3OE|3OOE|3PRISHTHAMATRA E|3SHORT E|4O|3U|3UE|3UU",
  "3UUE|3VOCALIC L|4LL|4R|4RR|0DEVICE CONTROL FOUR|2ONE|2STRING|2THREE|2TWO|0DIAERESIS",
  "0DIAMETER SIGN|0DIAMOND OPERATOR|1SHAPE WITH A DOT INSIDE|1TARGET|1WITH BOTTOM HALF BLACK",
  "2LEFT HALF BLACK|2RIGHT HALF BLACK|2TOP HALF BLACK|0DIE FACE-1|1FACE-2|1FACE-3|1FACE-4|1FACE-5",
  "1FACE-6|0DIESEL LOCOMOTIVE|0DIFFERENCE BETWEEN|0DIGIT EIGHT|2COMMA|2FULL STOP|1FIVE|2COMMA",
  "2FULL STOP|1FOUR|2COMMA|2FULL STOP|1NINE|2COMMA|2FULL STOP|1ONE|2COMMA|2FULL STOP|1SEVEN|2COMMA",
  "2FULL STOP|1SIX|2COMMA|2FULL STOP|1THREE|2COMMA|2FULL STOP|1TWO|2COMMA|2FULL STOP|1ZERO|2COMMA",
  "2FULL STOP|0DIGRAM FOR EARTH|2EARTHLY HEAVEN|3HUMAN|2GREATER YANG|3YIN|2HEAVENLY EARTH",
  "2HUMAN EARTH|2LESSER YANG|3YIN|0DIMENSION ORIGIN|0DINGBAT CIRCLED SANS-SERIF DIGIT EIGHT|4FIVE",
  "4FOUR|4NINE|4ONE|4SEVEN|4SIX|4THREE|4TWO|4ZERO|3NUMBER TEN|1NEGATIVE CIRCLED DIGIT EIGHT|4FIVE",
  "4FOUR|4NINE|4ONE|4SEVEN|4SIX|4THREE|4TWO|3NUMBER TEN|3SANS-SERIF DIGIT EIGHT|5FIVE|5FOUR|5NINE",
  "5ONE|5SEVEN|5SIX|5THREE|5TWO|5ZERO|4NUMBER TEN|0DIRECT CURRENT SYMBOL FORM TWO|1HIT",
  "0DISABLED CAR|0DISAPPOINTED BUT RELIEVED FACE|1FACE|0DISCONTINUOUS UNDERLINE SYMBOL",
  "0DISGUISED FACE|0DITTO MARK|0DIVES AKURU DIGIT EIGHT|3FIVE|3FOUR|3NINE|3ONE|3SEVEN|3SIX|3THREE",
  "3TWO|3ZERO|2DOUBLE DANDA|2END OF TEXT MARK|2GAP FILLER|2INITIAL RA|2LETTER A|3AA|3BA|3BHA|3CA",
  "3CHA|3DA|3DDA|3DDHA|3DHA|3E|3GA|3GHA|3HA|3I|3II|3JA|3KA|3KHA|3LA|3LLA|3MA|3NA|3NGA|3NNA|3NYA|3O",
  "3PA|3PHA|3RA|3SA|3SHA|3SSA|3TA|3THA|3TTA|3U|3UU|3VA|3YA|3YYA|3ZA|2MEDIAL RA|3YA",
  "2PREFIXED NASAL SIGN|2SIGN ANUSVARA|3CANDRABINDU|3HALANTA|3NUKTA|2VIRAMA|2VOWEL SIGN AA|4AI|4E",
  "4I|4II|4O|4U|4UU|0DIVIDES|0DIVING MASK|0DIVISION SIGN|1SLASH|1TIMES|0DIVORCE SYMBOL|0DIYA LAMP",
  "0DIZZY FACE|1SYMBOL|0DLE|0DNA DOUBLE HELIX|0DO NOT LITTER SYMBOL|0DOCUMENT|1WITH PICTURE|2TEXT",
  "3AND PICTURE|0DODO|0DOES NOT CONTAIN AS MEMBER|4NORMAL SUBGROUP|6OR EQUAL|2DIVIDE",
  "3WITH REVERSED NEGATION SLASH|2FORCE|2PRECEDE|3OR EQUAL|2PROVE|2SUCCEED|3OR EQUAL|0DOG|1FACE",
  "0DOGRA ABBREVIATION SIGN|1LETTER A|2AA|2AI|2AU|2BA|2BHA|2CA|2CHA|2DA|2DDA|2DDHA|2DHA|2E|2GA",
  "2GHA|2HA|2I|2II|2JA|2JHA|2KA|2KHA|2LA|2MA|2NA|2NGA|2NNA|2NYA|2O|2PA|2PHA|2RA|2RRA|2SA|2SHA|2SSA",
  "2TA|2THA|2TTA|2TTHA|2U|2UU|2VA|2YA|1SIGN ANUSVARA|2NUKTA|2VIRAMA|2VISARGA|1VOWEL SIGN AA|3AI",
  "3AU|3E|3I|3II|3O|3U|3UU|3VOCALIC R|4RR|0DOLLAR SIGN|0DOLPHIN|0DOMINO TILE HORIZONTAL BACK",
  "2HORIZONTAL-00-00|2HORIZONTAL-00-01|2HORIZONTAL-00-02|2HORIZONTAL-00-03|2HORIZONTAL-00-04",
  "2HORIZONTAL-00-05|2HORIZONTAL-00-06|2HORIZONTAL-01-00|2HORIZONTAL-01-01|2HORIZONTAL-01-02",
  "2HORIZONTAL-01-03|2HORIZONTAL-01-04|2HORIZONTAL-01-05|2HORIZONTAL-01-06|2HORIZONTAL-02-00",
  "2HORIZONTAL-02-01|2HORIZONTAL-02-02|2HORIZONTAL-02-03|2HORIZONTAL-02-04|2HORIZONTAL-02-05",
  "2HORIZONTAL-02-06|2HORIZONTAL-03-00|2HORIZONTAL-03-01|2HORIZONTAL-03-02|2HORIZONTAL-03-03",
  "2HORIZONTAL-03-04|2HORIZONTAL-03-05|2HORIZONTAL-03-06|2HORIZONTAL-04-00|2HORIZONTAL-04-01",
  "2HORIZONTAL-04-02|2HORIZONTAL-04-03|2HORIZONTAL-04-04|2HORIZONTAL-04-05|2HORIZONTAL-04-06",
  "2HORIZONTAL-05-00|2HORIZONTAL-05-01|2HORIZONTAL-05-02|2HORIZONTAL-05-03|2HORIZONTAL-05-04",
  "2HORIZONTAL-05-05|2HORIZONTAL-05-06|2HORIZONTAL-06-00|2HORIZONTAL-06-01|2HORIZONTAL-06-02",
  "2HORIZONTAL-06-03|2HORIZONTAL-06-04|2HORIZONTAL-06-05|2HORIZONTAL-06-06|2VERTICAL BACK",
  "2VERTICAL-00-00|2VERTICAL-00-01|2VERTICAL-00-02|2VERTICAL-00-03|2VERTICAL-00-04|2VERTICAL-00-05",
  "2VERTICAL-00-06|2VERTICAL-01-00|2VERTICAL-01-01|2VERTICAL-01-02|2VERTICAL-01-03|2VERTICAL-01-04",
  "2VERTICAL-01-05|2VERTICAL-01-06|2VERTICAL-02-00|2VERTICAL-02-01|2VERTICAL-02-02|2VERTICAL-02-03",
  "2VERTICAL-02-04|2VERTICAL-02-05|2VERTICAL-02-06|2VERTICAL-03-00|2VERTICAL-03-01|2VERTICAL-03-02",
  "2VERTICAL-03-03|2VERTICAL-03-04|2VERTICAL-03-05|2VERTICAL-03-06|2VERTICAL-04-00|2VERTICAL-04-01",
  "2VERTICAL-04-02|2VERTICAL-04-03|2VERTICAL-04-04|2VERTICAL-04-05|2VERTICAL-04-06|2VERTICAL-05-00",
  "2VERTICAL-05-01|2VERTICAL-05-02|2VERTICAL-05-03|2VERTICAL-05-04|2VERTICAL-05-05|2VERTICAL-05-06",
  "2VERTICAL-06-00|2VERTICAL-06-01|2VERTICAL-06-02|2VERTICAL-06-03|2VERTICAL-06-04|2VERTICAL-06-05",
  "2VERTICAL-06-06|0DONG SIGN|0DOOR|0DOT ABOVE|1MINUS|1OPERATOR|1PLUS|0DOTTED CIRCLE|1CROSS|1FENCE",
  "1LINE FACE|1OBELOS|1RIGHT-POINTING ANGLE|1SOLIDUS|1SQUARE|1TRANSPOSITION MARKER",
  "0DOUBLE ACUTE ACCENT|1CIRCLED DIGIT EIGHT|3FIVE|3FOUR|3NINE|3ONE|3SEVEN|3SIX|3THREE|3TWO",
  "2NUMBER TEN|1COLON EQUAL|1CURLY LOOP|1DAGGER|1DOWN TACK|1EXCLAMATION MARK",
  "1HIGH-REVERSED-9 QUOTATION MARK|1HYPHEN|1INTEGRAL|1INTERSECTION|1LEFT ARC GREATER-THAN BRACKET",
  "1LOGICAL AND|2OR|1LOW LINE|1LOW-9 QUOTATION MARK|1LOW-REVERSED-9 QUOTATION MARK",
  "1NESTED GREATER-THAN|2LESS-THAN|3WITH UNDERBAR|1OBLIQUE HYPHEN|1PLUS|1PRECEDES|1PRIME",
  "2QUOTATION MARK|1QUESTION MARK|1RIGHT ARC LESS-THAN BRACKET|1SOLIDUS OPERATOR",
  "1SQUARE INTERSECTION|2UNION|1STACKED COMMA|1STROKE NOT SIGN|1SUBSET|1SUCCEEDS|1SUPERSET",
  "1SUSPENSION MARK|1UNION|1UP TACK|1VERTICAL BAR|3DOUBLE LEFT TURNSTILE|4RIGHT TURNSTILE",
  "3LEFT TURNSTILE|2LINE|1WAVY OVERLINE|0DOUBLE-ENDED MULTIMAP",
  "0DOUBLE-LINE EQUAL TO OR GREATER-THAN|4LESS-THAN|1SLANTED EQUAL TO OR GREATER-THAN|5LESS-THAN",
  "2GREATER-THAN OR EQUAL TO|2LESS-THAN OR EQUAL TO|0DOUBLE-STRUCK CAPITAL C|2GAMMA|2H|2N|2P|2PI",
  "2Q|2R|2Z|1ITALIC CAPITAL D|2SMALL D|3E|3I|3J|1N-ARY SUMMATION|1SMALL GAMMA|2PI",
  "0DOUBLED FEMALE SIGN|1MALE SIGN|1SYMBOL|0DOUGHNUT|0DOVE OF PEACE|0DOWN ARROWHEAD|1FISH TAIL",
  "1RIGHT DIAGONAL ELLIPSIS|1TACK|2WITH CIRCLE BELOW|0DOWN-POINTING RED TRIANGLE",
  "1SMALL RED TRIANGLE|1TRIANGLE WITH LEFT HALF BLACK|3RIGHT HALF BLACK|0DOWNWARD FACING HOOK",
  "3WITH DOT|2NOTCHED HOOK|4WITH DOT|0DOWNWARDS ANCORA|1ARROW|2AND RIGHT ONE EIGHTH BLOCK",
  "2FROM BAR|2LEFTWARDS OF UPWARDS ARROW|2TO BAR|2WITH CORNER LEFTWARDS|3DOUBLE STROKE",
  "3EQUILATERAL ARROWHEAD|3HORIZONTAL STROKE|3LARGE TRIANGLE ARROWHEAD|3MEDIUM TRIANGLE ARROWHEAD",
  "3NOTCHED TAIL|3SMALL EQUILATERAL ARROWHEAD|4TRIANGLE ARROWHEAD|3TIP LEFTWARDS|4RIGHTWARDS",
  "1BLACK ARROW|2CIRCLED WHITE ARROW|1COMPRESSED ARROW|1DASHED ARROW|1DOUBLE ARROW",
  "1FINGER-POST ARROW|1HARPOON WITH BARB LEFT BESIDE DOWNWARDS HARPOON WITH BARB RIGHT",
  "6UPWARDS HARPOON WITH BARB RIGHT|5FROM BAR|5TO BAR|4LEFTWARDS|4RIGHT FROM BAR|5TO BAR",
  "4RIGHTWARDS|1HEAVY ARROW|2COMPRESSED ARROW|1PAIRED ARROWS|1QUADRUPLE ARROW|1ROCKET",
  "1SANS-SERIF ARROW|1SQUARED ARROW|1TRIANGLE ARROWHEAD|1TRIANGLE-HEADED ARROW",
  "3LEFTWARDS OF UPWARDS TRIANGLE-HEADED ARROW|3TO BAR|3WITH BOLD SHAFT|4DOUBLE HORIZONTAL STROKE",
  "4HEAVY SHAFT|4LONG TIP LEFTWARDS|6RIGHTWARDS|4MEDIUM SHAFT|4NARROW SHAFT|4VERY HEAVY SHAFT",
  "2DASHED ARROW|2PAIRED ARROWS|2ZIGZAG ARROW|1TRIPLE ARROW|1TWO HEADED ARROW",
  "1TWO-HEADED ARROW WITH TRIANGLE ARROWHEADS|1WHITE ARROW|3WITHIN TRIANGLE ARROWHEAD",
  "1ZIGZAG ARROW|0DRACHMA SIGN|0DRAFTING POINT RIGHTWARDS ARROW|0DRAGON|1FACE|0DRESS",
  "0DRIVE SLOW SIGN|0DROMEDARY CAMEL|0DROOLING FACE|0DROP OF BLOOD|0DROPLET|0DRUM WITH DRUMSTICKS",
  "0DUCK|0DUMPLING|0DUPLOYAN AFFIX ATTACHED E HOOK|3I HOOK|3LEFT-TO-RIGHT SECANT|3SECANT|3TAIL",
  "3TANGENT|4HOOK|2HIGH ACUTE|3CIRCLE|3DOT|3GRAVE|3LINE|3LONG GRAVE|3TIGHT ACUTE|3VERTICAL|4SECANT",
  "3WAVE|2LEFT HORIZONTAL SECANT|2LOW ACUTE|3ARROW|3CIRCLE|3DOT|3GRAVE|3LINE|3LONG GRAVE",
  "3TIGHT ACUTE|3VERTICAL|4SECANT|3WAVE|2MID HORIZONTAL SECANT|3VERTICAL SECANT",
  "2RIGHT HORIZONTAL SECANT|1DOUBLE MARK|1LETTER A|2AOU|2B|2D|3S|2DH|2E|2EE|2EU|2F|3N|2G|3R S|2H",
  "2HL|2I|2IE|2J|3M|4S|3N|4S|3S|4WITH DOT|3WITH DOT|4DOTS INSIDE AND ABOVE|2K|3M|3R S|2KK|2L|2LH",
  "2LONG I|3U|2M|3N|4S|3S|3WITH DOT|2N|3M|4S|3S|3WITH DOT|2NASAL A|3I|3O|3U|2O|2OA|2OOH|2OU|2OW|2P",
  "3N|2PERNIN AM|3AN|2R|3S|2RH|2ROMANIAN I|3U|2S|3J|4S|3K|4R|3M|3N|3P|4R|3S|3T|4R|3WITH DOT|5BELOW",
  "2SHORT I|2SLOAN AN|3DH|3EE|3EH|3EN|3J|3ON|3OW|3U|2T|3R S|3S|2TH|2U|3N|2UH|2UI|2V|2VOCALIC M|2W",
  "3R|2WA|2WEI|2WH|2WI|2WO|2WOW|2X|2XW|2YE|1PUNCTUATION CHINOOK FULL STOP|1SIGN O WITH CROSS",
  "1THICK LETTER SELECTOR|0DVD|0E-MAIL SYMBOL|0EAGLE|0EAR|1OF MAIZE|2RICE|1WITH HEARING AID|0EARTH",
  "1GLOBE AMERICAS|2ASIA-AUSTRALIA|2EUROPE-AFRICA|1GROUND|0EAST SYRIAC CROSS|0EDITORIAL CORONIS",
  "0EGG|0EGYPTIAN HIEROGLYPH A001|2A002|2A003|2A004|2A005|2A005A|2A006|2A006A|2A006B|2A007|2A008",
  "2A009|2A010|2A011|2A012|2A013|2A014|2A014A|2A015|2A016|2A017|2A017A|2A018|2A019|2A020|2A021",
  "2A022|2A023|2A024|2A025|2A026|2A027|2A028|2A029|2A030|2A031|2A032|2A032A|2A033|2A034|2A035",
  "2A036|2A037|2A038|2A039|2A040|2A040A|2A041|2A042|2A042A|2A043|2A043A|2A044|2A045|2A045A|2A046",
  "2A047|2A048|2A049|2A050|2A051|2A052|2A053|2A054|2A055|2A056|2A057|2A058|2A059|2A060|2A061|2A062",
  "2A063|2A064|2A065|2A066|2A067|2A068|2A069|2A070|2AA001|2AA002|2AA003|2AA004|2AA005|2AA006",
  "2AA007|2AA007A|2AA007B|2AA008|2AA009|2AA010|2AA011|2AA012|2AA013|2AA014|2AA015|2AA016|2AA017",
  "2AA018|2AA019|2AA020|2AA021|2AA022|2AA023|2AA024|2AA025|2AA026|2AA027|2AA028|2AA029|2AA030",
  "2AA031|2AA032|2B001|2B002|2B003|2B004|2B005|2B005A|2B006|2B007|2B008|2B009|2BEGIN SEGMENT|2C001",
  "2C002|2C002A|2C002B|2C002C|2C003|2C004|2C005|2C006|2C007|2C008|2C009|2C010|2C010A|2C011|2C012",
  "2C013|2C014|2C015|2C016|2C017|2C018|2C019|2C020|2C021|2C022|2C023|2C024|2D001|2D002|2D003|2D004",
  "2D005|2D006|2D007|2D008|2D008A|2D009|2D010|2D011|2D012|2D013|2D014|2D015|2D016|2D017|2D018",
  "2D019|2D020|2D021|2D022|2D023|2D024|2D025|2D026|2D027|2D027A|2D028|2D029|2D030|2D031|2D031A",
  "2D032|2D033|2D034|2D034A|2D035|2D036|2D037|2D038|2D039|2D040|2D041|2D042|2D043|2D044|2D045",
  "2D046|2D046A|2D047|2D048|2D048A|2D049|2D050|2D050A|2D050B|2D050C|2D050D|2D050E|2D050F|2D050G",
  "2D050H|2D050I|2D051|2D052|2D052A|2D053|2D054|2D054A|2D055|2D056|2D057|2D058|2D059|2D060|2D061",
  "2D062|2D063|2D064|2D065|2D066|2D067|2D067A|2D067B|2D067C|2D067D|2D067E|2D067F|2D067G|2D067H",
  "2E001|2E002|2E003|2E004|2E005|2E006|2E007|2E008|2E008A|2E009|2E009A|2E010|2E011|2E012|2E013",
  "2E014|2E015|2E016|2E016A|2E017|2E017A|2E018|2E019|2E020|2E020A|2E021|2E022|2E023|2E024|2E025",
  "2E026|2E027|2E028|2E028A|2E029|2E030|2E031|2E032|2E033|2E034|2E034A|2E036|2E037|2E038",
  "2END SEGMENT|2F001|2F001A|2F002|2F003|2F004|2F005|2F006|2F007|2F008|2F009|2F010|2F011|2F012",
  "2F013|2F013A|2F014|2F015|2F016|2F017|2F018|2F019|2F020|2F021|2F021A|2F022|2F023|2F024|2F025",
  "2F026|2F027|2F028|2F029|2F030|2F031|2F031A|2F032|2F033|2F034|2F035|2F036|2F037|2F037A|2F038",
  "2F038A|2F039|2F040|2F041|2F042|2F043|2F044|2F045|2F045A|2F046|2F046A|2F047|2F047A|2F048|2F049",
  "2F050|2F051|2F051A|2F051B|2F051C|2F052|2F053|2G001|2G002|2G003|2G004|2G005|2G006|2G006A|2G007",
  "2G007A|2G007B|2G008|2G009|2G010|2G011|2G011A|2G012|2G013|2G014|2G015|2G016|2G017|2G018|2G019",
  "2G020|2G020A|2G021|2G022|2G023|2G024|2G025|2G026|2G026A|2G027|2G028|2G029|2G030|2G031|2G032",
  "2G033|2G034|2G035|2G036|2G036A|2G037|2G037A|2G038|2G039|2G040|2G041|2G042|2G043|2G043A|2G044",
  "2G045|2G045A|2G046|2G047|2G048|2G049|2G050|2G051|2G052|2G053|2G054|2H001|2H002|2H003|2H004",
  "2H005|2H006|2H006A|2H007|2H008|2HORIZONTAL JOINER|2I001|2I002|2I003|2I004|2I005|2I005A|2I006",
  "2I007|2I008|2I009|2I009A|2I010|2I010A|2I011|2I011A|2I012|2I013|2I014|2I015",
  "2INSERT AT BOTTOM END|5START|4TOP END|5START|2K001|2K002|2K003|2K004|2K005|2K006|2K007|2K008",
  "2L001|2L002|2L002A|2L003|2L004|2L005|2L006|2L006A|2L007|2L008|2M001|2M001A|2M001B|2M002|2M003",
  "2M003A|2M004|2M005|2M006|2M007|2M008|2M009|2M010|2M010A|2M011|2M012|2M012A|2M012B|2M012C|2M012D",
  "2M012E|2M012F|2M012G|2M012H|2M013|2M014|2M015|2M015A|2M016|2M016A|2M017|2M017A|2M018|2M019",
  "2M020|2M021|2M022|2M022A|2M023|2M024|2M024A|2M025|2M026|2M027|2M028|2M028A|2M029|2M030|2M031",
  "2M031A|2M032|2M033|2M033A|2M033B|2M034|2M035|2M036|2M037|2M038|2M039|2M040|2M040A|2M041|2M042",
  "2M043|2M044|2N001|2N002|2N003|2N004|2N005|2N006|2N007|2N008|2N009|2N010|2N011|2N012|2N013|2N014",
  "2N015|2N016|2N017|2N018|2N018A|2N018B|2N019|2N020|2N021|2N022|2N023|2N024|2N025|2N025A|2N026",
  "2N027|2N028|2N029|2N030|2N031|2N032|2N033|2N033A|2N034|2N034A|2N035|2N035A|2N036|2N037|2N037A",
  "2N038|2N039|2N040|2N041|2N042|2NL001|2NL002|2NL003|2NL004|2NL005|2NL005A|2NL006|2NL007|2NL008",
  "2NL009|2NL010|2NL011|2NL012|2NL013|2NL014|2NL015|2NL016|2NL017|2NL017A|2NL018|2NL019|2NL020",
  "2NU001|2NU002|2NU003|2NU004|2NU005|2NU006|2NU007|2NU008|2NU009|2NU010|2NU010A|2NU011|2NU011A",
  "2NU012|2NU013|2NU014|2NU015|2NU016|2NU017|2NU018|2NU018A|2NU019|2NU020|2NU021|2NU022|2NU022A",
  "2O001|2O001A|2O002|2O003|2O004|2O005|2O005A|2O006|2O006A|2O006B|2O006C|2O006D|2O006E|2O006F",
  "2O007|2O008|2O009|2O010|2O010A|2O010B|2O010C|2O011|2O012|2O013|2O014|2O015|2O016|2O017|2O018",
  "2O019|2O019A|2O020|2O020A|2O021|2O022|2O023|2O024|2O024A|2O025|2O025A|2O026|2O027|2O028|2O029",
  "2O029A|2O030|2O030A|2O031|2O032|2O033|2O033A|2O034|2O035|2O036|2O036A|2O036B|2O036C|2O036D",
  "2O037|2O038|2O039|2O040|2O041|2O042|2O043|2O044|2O045|2O046|2O047|2O048|2O049|2O050|2O050A",
  "2O050B|2O051|2OVERLAY MIDDLE|2P001|2P001A|2P002|2P003|2P003A|2P004|2P005|2P006|2P007|2P008",
  "2P009|2P010|2P011|2Q001|2Q002|2Q003|2Q004|2Q005|2Q006|2Q007|2R001|2R002|2R002A|2R003|2R003A",
  "2R003B|2R004|2R005|2R006|2R007|2R008|2R009|2R010|2R010A|2R011|2R012|2R013|2R014|2R015|2R016",
  "2R016A|2R017|2R018|2R019|2R020|2R021|2R022|2R023|2R024|2R025|2R026|2R027|2R028|2R029|2S001",
  "2S002|2S002A|2S003|2S004|2S005|2S006|2S006A|2S007|2S008|2S009|2S010|2S011|2S012|2S013|2S014",
  "2S014A|2S014B|2S015|2S016|2S017|2S017A|2S018|2S019|2S020|2S021|2S022|2S023|2S024|2S025|2S026",
  "2S026A|2S026B|2S027|2S028|2S029|2S030|2S031|2S032|2S033|2S034|2S035|2S035A|2S036|2S037|2S038",
  "2S039|2S040|2S041|2S042|2S043|2S044|2S045|2S046|2T001|2T002|2T003|2T003A|2T004|2T005|2T006",
  "2T007|2T007A|2T008|2T008A|2T009|2T009A|2T010|2T011|2T011A|2T012|2T013|2T014|2T015|2T016|2T016A",
  "2T017|2T018|2T019|2T020|2T021|2T022|2T023|2T024|2T025|2T026|2T027|2T028|2T029|2T030|2T031|2T032",
  "2T032A|2T033|2T033A|2T034|2T035|2T036|2U001|2U002|2U003|2U004|2U005|2U006|2U006A|2U006B|2U007",
  "2U008|2U009|2U010|2U011|2U012|2U013|2U014|2U015|2U016|2U017|2U018|2U019|2U020|2U021|2U022|2U023",
  "2U023A|2U024|2U025|2U026|2U027|2U028|2U029|2U029A|2U030|2U031|2U032|2U032A|2U033|2U034|2U035",
  "2U036|2U037|2U038|2U039|2U040|2U041|2U042|2V001|2V001A|2V001B|2V001C|2V001D|2V001E|2V001F",
  "2V001G|2V001H|2V001I|2V002|2V002A|2V003|2V004|2V005|2V006|2V007|2V007A|2V007B|2V008|2V009|2V010",
  "2V011|2V011A|2V011B|2V011C|2V012|2V012A|2V012B|2V013|2V014|2V015|2V016|2V017|2V018|2V019|2V020",
  "2V020A|2V020B|2V020C|2V020D|2V020E|2V020F|2V020G|2V020H|2V020I|2V020J|2V020K|2V020L|2V021|2V022",
  "2V023|2V023A|2V024|2V025|2V026|2V027|2V028|2V028A|2V029|2V029A|2V030|2V030A|2V031|2V031A|2V032",
  "2V033|2V033A|2V034|2V035|2V036|2V037|2V037A|2V038|2V039|2V040|2V040A|2VERTICAL JOINER|2W001",
  "2W002|2W003|2W003A|2W004|2W005|2W006|2W007|2W008|2W009|2W009A|2W010|2W010A|2W011|2W012|2W013",
  "2W014|2W014A|2W015|2W016|2W017|2W017A|2W018|2W018A|2W019|2W020|2W021|2W022|2W023|2W024|2W024A",
  "2W025|2X001|2X002|2X003|2X004|2X004A|2X004B|2X005|2X006|2X006A|2X007|2X008|2X008A|2Y001|2Y001A",
  "2Y002|2Y003|2Y004|2Y005|2Y006|2Y007|2Y008|2Z001|2Z002|2Z002A|2Z002B|2Z002C|2Z002D|2Z003|2Z003A",
  "2Z003B|2Z004|2Z004A|2Z005|2Z005A|2Z006|2Z007|2Z008|2Z009|2Z010|2Z011|2Z012|2Z013|2Z014|2Z015",
  "2Z015A|2Z015B|2Z015C|2Z015D|2Z015E|2Z015F|2Z015G|2Z015H|2Z015I|2Z016|2Z016A|2Z016B|2Z016C",
  "2Z016D|2Z016E|2Z016F|2Z016G|2Z016H|0EIGHT PETALLED OUTLINED BLACK FLORETTE|1POINTED BLACK STAR",
  "2PINWHEEL STAR|2RECTILINEAR BLACK STAR|1SPOKED ASTERISK|1TEARDROP-SPOKED PROPELLER ASTERISK",
  "0EIGHTH NOTE|0EJECT SYMBOL|0ELBASAN LETTER A|2BE|2CE|2CHE|2DE|2DHE|2E|2EI|2FE|2GE|2GHAMMA|2GHE",
  "2GJE|2HE|2I|2JE|2KE|2KHE|2LE|2LLE|2ME|2NA|2NDE|2NE|2NJE|2O|2PE|2QE|2RE|2RRE|2SE|2SHE|2TE|2THE",
  "2U|2VE|2XE|2Y|2ZE|2ZHE|0ELECTRIC ARROW|1LIGHT BULB|1PLUG|1TORCH|0ELECTRICAL INTERSECTION",
  "0ELEMENT OF|2OPENING DOWNWARDS|3UPWARDS|2WITH DOT ABOVE|3LONG HORIZONTAL STROKE|3OVERBAR",
  "3TWO HORIZONTAL STROKES|3UNDERBAR|3VERTICAL BAR AT END OF HORIZONTAL STROKE|0ELEPHANT|0ELEVATOR",
  "0ELF|0ELYMAIC LETTER ALEPH|2AYIN|2BETH|2DALETH|2GIMEL|2HE|2HETH|2KAPH|2LAMEDH|2MEM|2NUN|2PE",
  "2QOPH|2RESH|2SADHE|2SAMEKH|2SHIN|2TAW|2TETH|2WAW|2YODH|2ZAYIN|1LIGATURE ZAYIN-YODH|0EM DASH",
  "1QUAD|1SPACE|0EMOJI COMPONENT BALD|2CURLY HAIR|2RED HAIR|2WHITE HAIR",
  "1MODIFIER FITZPATRICK TYPE-1-2|3TYPE-3|3TYPE-4|3TYPE-5|3TYPE-6|0EMPHASIS SYMBOL|0EMPTY DOCUMENT",
  "1NEST|1NOTE|2PAD|2PAGE|1PAGE|1PAGES|1SET|2WITH LEFT ARROW ABOVE|3OVERBAR|3RIGHT ARROW ABOVE",
  "3SMALL CIRCLE ABOVE|0EN DASH|1QUAD|1SPACE|0END OF GUARDED AREA|2LINE|2MEDIUM|2PROOF",
  "2PROTECTED AREA|2SELECTED AREA|2TEXT|2TRANSMISSION|3BLOCK|1WITH LEFTWARDS ARROW ABOVE|0ENQ",
  "0ENQUIRY|0ENTER SYMBOL|0ENVELOPE|1WITH DOWNWARDS ARROW ABOVE|2LIGHTNING|0EOL|0EOM|0EOT|0EPA",
  "0EQUAL AND PARALLEL TO|1TO BY DEFINITION|2OR GREATER-THAN|3LESS-THAN|3PRECEDES|3SUCCEEDS",
  "0EQUALS COLON|1SIGN|2ABOVE LEFTWARDS ARROW|3PLUS SIGN|3RIGHTWARDS ARROW|3TILDE OPERATOR",
  "2AND SLANTED PARALLEL|5WITH TILDE ABOVE|2WITH BUMPY ABOVE|3DOT BELOW|3INFINITY BELOW",
  "3TWO DOTS ABOVE AND TWO DOTS BELOW|1WITH ASTERISK|0EQUIANGULAR TO|0EQUIVALENT TO",
  "1WITH FOUR DOTS ABOVE|0ERASE TO THE LEFT|3RIGHT|0ERIS FORM ONE|2TWO|0ERROR-BARRED BLACK CIRCLE",
  "2DIAMOND|2SQUARE|1WHITE CIRCLE|2DIAMOND|2SQUARE|0ESA|0ESC|0ESCAPE|0ESTIMATED SYMBOL|0ESTIMATES",
  "0ETB|0ETHIOPIC COLON|1COMBINING GEMINATION AND VOWEL LENGTH MARK|3MARK|2VOWEL LENGTH MARK",
  "1COMMA|1DIGIT EIGHT|2FIVE|2FOUR|2NINE|2ONE|2SEVEN|2SIX|2THREE|2TWO|1FULL STOP|1NUMBER EIGHTY",
  "2FIFTY|2FORTY|2HUNDRED|2NINETY|2SEVENTY|2SIXTY|2TEN|3THOUSAND|2THIRTY|2TWENTY",
  "1PARAGRAPH SEPARATOR|1PREFACE COLON|1QUESTION MARK|1SECTION MARK|1SEMICOLON|1SYLLABLE BA|2BAA",
  "2BBA|2BBAA|2BBE|2BBEE|2BBI|2BBO|2BBU|2BE|2BEE|2BI|2BO|2BOA|2BU|2BWA|2BWE|2BWEE|2BWI|2CA|2CAA",
  "2CCA|2CCAA|2CCE|2CCEE|2CCHA|2CCHAA|2CCHE|2CCHEE|2CCHHA|2CCHHAA|2CCHHE|2CCHHEE|2CCHHI|2CCHHO",
  "2CCHHU|2CCHI|2CCHO|2CCHU|2CCI|2CCO|2CCU|2CE|2CEE|2CHA|2CHAA|2CHE|2CHEE|2CHI|2CHO|2CHOA|2CHU",
  "2CHWA|2CI|2CO|2COA|2CU|2CWA|2DA|2DAA|2DDA|2DDAA|2DDE|2DDEE|2DDHAA|2DDHE|2DDHEE|2DDHI|2DDHO",
  "2DDHU|2DDI|2DDO|2DDOA|2DDU|2DDWA|2DE|2DEE|2DI|2DO|2DOA|2DU|2DWA|2DZAA|2DZE|2DZEE|2DZI|2DZO|2DZU",
  "2FA|2FAA|2FE|2FEE|2FI|2FO|2FU|2FWA|2FWE|2FWEE|2FWI|2FYA|2GA|2GAA|2GE|2GEE|2GGA|2GGAA|2GGE|2GGEE",
  "2GGI|2GGO|2GGU|2GGWA|2GGWAA|2GGWE|2GGWEE|2GGWI|2GI|2GLOTTAL A|3AA|3E|3EE|3I|3O|3OA|3U|3WA|2GO",
  "2GOA|2GU|2GURAGE BWEE|3BWI|3FWEE|3FWI|3GWE|3GWEE|3GWI|3HHWA|3KWE|3KWEE|3KWI|3MWEE|3MWI|3PWEE",
  "3PWI|3QWE|3QWEE|3QWI|2GWA|2GWAA|2GWE|2GWEE|2GWI|2GYA|2GYAA|2GYE|2GYEE|2GYI|2GYO|2GYU|2HA|2HAA",
  "2HE|2HEE|2HHA|2HHAA|2HHE|2HHEE|2HHI|2HHO|2HHU|2HHWA|2HHWE|2HHWEE|2HHWI|2HHYA|2HHYAA|2HHYE",
  "2HHYEE|2HHYI|2HHYO|2HHYU|2HI|2HO|2HOA|2HU|2JA|2JAA|2JE|2JEE|2JI|2JO|2JOA|2JU|2JWA|2KA|2KAA|2KE",
  "2KEE|2KI|2KO|2KOA|2KU|2KWA|2KWAA|2KWE|2KWEE|2KWI|2KXA|2KXAA|2KXE|2KXEE|2KXI|2KXO|2KXU|2KXWA",
  "2KXWAA|2KXWE|2KXWEE|2KXWI|2KYA|2KYAA|2KYE|2KYEE|2KYI|2KYO|2KYU|2LA|2LAA|2LE|2LEE|2LI|2LO|2LOA",
  "2LU|2LWA|2MA|2MAA|2ME|2MEE|2MI|2MO|2MOA|2MU|2MWA|2MWE|2MWEE|2MWI|2MYA|2NA|2NAA|2NE|2NEE|2NI|2NO",
  "2NOA|2NU|2NWA|2NYA|2NYAA|2NYE|2NYEE|2NYI|2NYO|2NYOA|2NYU|2NYWA|2PA|2PAA|2PE|2PEE|2PHA|2PHAA",
  "2PHARYNGEAL A|3AA|3E|3EE|3I|3O|3U|2PHE|2PHEE|2PHI|2PHO|2PHOA|2PHU|2PHWA|2PI|2PO|2POA|2PU|2PWA",
  "2PWE|2PWEE|2PWI|2QA|2QAA|2QE|2QEE|2QHA|2QHAA|2QHE|2QHEE|2QHI|2QHO|2QHU|2QHWA|2QHWAA|2QHWE",
  "2QHWEE|2QHWI|2QI|2QO|2QOA|2QU|2QWA|2QWAA|2QWE|2QWEE|2QWI|2QYA|2QYAA|2QYE|2QYEE|2QYI|2QYO|2QYU",
  "2RA|2RAA|2RE|2REE|2RI|2RO|2ROA|2RU|2RWA|2RYA|2SA|2SAA|2SE|2SEBATBEIT BWA|3FWA|3MWA|3PWA|2SEE",
  "2SHA|2SHAA|2SHE|2SHEE|2SHI|2SHO|2SHOA|2SHU|2SHWA|2SI|2SO|2SOA|2SSA|2SSAA|2SSE|2SSEE|2SSI|2SSO",
  "2SSU|2SU|2SWA|2SZA|2SZAA|2SZE|2SZEE|2SZI|2SZO|2SZU|2SZWA|2TA|2TAA|2TE|2TEE|2THA|2THAA|2THE",
  "2THEE|2THI|2THO|2THOA|2THU|2THWA|2TI|2TO|2TOA|2TSA|2TSAA|2TSE|2TSEE|2TSI|2TSO|2TSU|2TSWA|2TTHAA",
  "2TTHE|2TTHEE|2TTHI|2TTHO|2TTHU|2TU|2TWA|2TZA|2TZAA|2TZE|2TZEE|2TZI|2TZO|2TZOA|2TZU|2VA|2VAA|2VE",
  "2VEE|2VI|2VO|2VU|2VWA|2WA|2WAA|2WE|2WEE|2WI|2WO|2WOA|2WU|2XA|2XAA|2XE|2XEE|2XI|2XO|2XOA|2XU",
  "2XWA|2XWAA|2XWE|2XWEE|2XWI|2XYA|2XYAA|2XYE|2XYEE|2XYI|2XYO|2XYU|2YA|2YAA|2YE|2YEE|2YI|2YO|2YOA",
  "2YU|2ZA|2ZAA|2ZE|2ZEE|2ZHA|2ZHAA|2ZHE|2ZHEE|2ZHI|2ZHO|2ZHU|2ZHWA|2ZI|2ZO|2ZOA|2ZU|2ZWA|2ZZA",
  "2ZZAA|2ZZE|2ZZEE|2ZZI|2ZZO|2ZZU|1TONAL MARK CHIRET|3DERET|3DERET-HIDET|3DIFAT|3HIDET|3KENAT",
  "3KURT|3RIKRIK|3SHORT RIKRIK|3YIZET|1WORDSPACE|0ETX|0EULER CONSTANT|0EURO SIGN",
  "0EURO-CURRENCY SIGN|0EUROPEAN CASTLE|1POST OFFICE|0EVERGREEN TREE|0EXCESS|0EXCLAMATION MARK",
  "1QUESTION MARK|0EXPRESSIONLESS FACE|0EXTENDED ARABIC-INDIC DIGIT EIGHT|3FIVE|3FOUR|3NINE|3ONE",
  "3SEVEN|3SIX|3THREE|3TWO|3ZERO|0EXTRATERRESTRIAL ALIEN|0EXTREMELY HEAVY FIVE SPOKED ASTERISK",
  "2GREEK CROSS|2SALTIRE|2SIX SPOKED ASTERISK|2WHITE CIRCLE|3SQUARE|0EYE|0EYEGLASSES|0EYES",
  "0FACE HOLDING BACK TEARS|1MASSAGE|1PALM|1SAVOURING DELICIOUS FOOD|1SCREAMING IN FEAR",
  "1THROWING A KISS|1WITH COLD SWEAT|2COWBOY HAT|2DIAGONAL MOUTH|2FINGER COVERING CLOSED LIPS",
  "2HEAD-BANDAGE|2LOOK OF TRIUMPH|2MEDICAL MASK|2MONOCLE|2NO GOOD GESTURE|2OK GESTURE",
  "2ONE EYEBROW RAISED|2OPEN EYES AND HAND OVER MOUTH|3MOUTH|4AND COLD SWEAT|4VOMITING",
  "2PARTY HORN AND PARTY HAT|2PEEKING EYE|2PLEADING EYES|2ROLLING EYES|2STUCK-OUT TONGUE",
  "4AND TIGHTLY-CLOSED EYES|5WINKING EYE|2TEARS OF JOY|2THERMOMETER|2UNEVEN EYES AND WAVY MOUTH",
  "1WITHOUT MOUTH|0FACSIMILE SIGN|0FACTORY|0FAIRY|0FALAFEL|0FALLEN LEAF",
  "0FALLING DIAGONAL CROSSING NORTH EAST ARROW|3RISING DIAGONAL|2IN WHITE CIRCLE IN BLACK SQUARE",
  "0FAMILY|0FARSI SYMBOL|0FATHER CHRISTMAS|0FAX ICON|1MACHINE|0FEARFUL FACE|0FEATHER|0FEMALE SIGN",
  "0FEMININE ORDINAL INDICATOR|0FENCER|0FERRIS WHEEL|0FERRY|0FF|0FIELD HOCKEY STICK AND BALL",
  "0FIGURE DASH|1SPACE|0FILE CABINET|1FOLDER|1SEPARATOR|0FILM FRAMES|1PROJECTOR",
  "0FINITE PART INTEGRAL|0FIRE|1ENGINE|1EXTINGUISHER|0FIRECRACKER|0FIREWORK SPARKLER|0FIREWORKS",
  "0FIRST PLACE MEDAL|1QUARTER MOON|3SYMBOL|3WITH FACE|1STRONG ISOLATE|0FISH",
  "1CAKE WITH SWIRL DESIGN|0FISHEYE|0FISHING POLE AND FISH|0FISTED HAND SIGN|0FIVE DOT MARK",
  "2PUNCTUATION|0FLAG IN HOLE|0FLAMINGO|0FLAT SHOE|0FLATBREAD|0FLATNESS|0FLEUR-DE-LIS",
  "0FLEXED BICEPS|0FLOPPY DISK|0FLORAL HEART|0FLOWER|1PLAYING CARDS|1PUNCTUATION MARK",
  "0FLUSHED FACE|0FLY|0FLYING DISC|1ENVELOPE|1SAUCER|0FOG|0FOGGY|0FOLDER|0FONDUE|0FOOT|0FOOTPRINTS",
  "0FOR ALL|0FORCES|0FORK AND KNIFE|3WITH PLATE|0FORKED PARAGRAPHOS|0FORKING|0FORM FEED",
  "0FORTUNE COOKIE|0FOUNTAIN|0FOUR BALLOON-SPOKED ASTERISK|1CLUB-SPOKED ASTERISK",
  "1CORNER ARROWS CIRCLING ANTICLOCKWISE|1DOT MARK|2PUNCTUATION|1LEAF CLOVER|1POINTED BLACK STAR",
  "1TEARDROP-SPOKED ASTERISK|0FOUR-PER-EM SPACE|0FOURTH ROOT|0FOX FACE|0FRACTION NUMERATOR ONE",
  "1SLASH|0FRAME WITH AN X|2PICTURE|2TILES|0FREEZING FACE|0FRENCH FRANC SIGN|1FRIES|0FRIED SHRIMP",
  "0FROG FACE|0FRONT-FACING BABY CHICK|0FRONT-TILTED SHADOWED WHITE RIGHTWARDS ARROW|0FROWN",
  "0FROWNING FACE WITH OPEN MOUTH|0FS|0FSI|0FUEL PUMP|0FULL BLOCK|1MOON SYMBOL|2WITH FACE",
  "1OUTER JOIN|1STOP|0FULLWIDTH AMPERSAND|1APOSTROPHE|1ASTERISK|1BROKEN BAR|1CENT SIGN",
  "1CIRCUMFLEX ACCENT|1COLON|1COMMA|1COMMERCIAL AT|1DIGIT EIGHT|2FIVE|2FOUR|2NINE|2ONE|2SEVEN|2SIX",
  "2THREE|2TWO|2ZERO|1DOLLAR SIGN|1EQUALS SIGN|1EXCLAMATION MARK|1FULL STOP|1GRAVE ACCENT",
  "1GREATER-THAN SIGN|1HYPHEN-MINUS|1LATIN CAPITAL LETTER A|4B|4C|4D|4E|4F|4G|4H|4I|4J|4K|4L|4M|4N",
  "4O|4P|4Q|4R|4S|4T|4U|4V|4W|4X|4Y|4Z|2SMALL LETTER A|4B|4C|4D|4E|4F|4G|4H|4I|4J|4K|4L|4M|4N|4O",
  "4P|4Q|4R|4S|4T|4U|4V|4W|4X|4Y|4Z|1LEFT CURLY BRACKET|2PARENTHESIS|2SQUARE BRACKET",
  "2WHITE PARENTHESIS|1LESS-THAN SIGN|1LOW LINE|1MACRON|1NOT SIGN|1NUMBER SIGN|1PERCENT SIGN",
  "1PLUS SIGN|1POUND SIGN|1QUESTION MARK|1QUOTATION MARK|1REVERSE SOLIDUS|1RIGHT CURLY BRACKET",
  "2PARENTHESIS|2SQUARE BRACKET|2WHITE PARENTHESIS|1SEMICOLON|1SOLIDUS|1TILDE|1VERTICAL LINE",
  "1WON SIGN|1YEN SIGN|0FUNCTION APPLICATION|0FUNERAL URN|0FUSE|0FVS1|0FVS2|0FVS3|0FVS4|0GAME DIE",
  "0GARLIC|0GEAR|1WITH HANDLES|1WITHOUT HUB|0GEM STONE|0GEMINI|0GENIE|0GEOMETRIC PROPORTION",
  "0GEOMETRICALLY EQUAL TO|1EQUIVALENT TO|0GEORGIAN CAPITAL LETTER AEN|3AN|3BAN|3CAN|3CHAR|3CHIN",
  "3CIL|3DON|3EN|3GAN|3GHAN|3HAE|3HAR|3HE|3HIE|3HOE|3IN|3JHAN|3JIL|3KAN|3KHAR|3LAS|3MAN|3NAR|3ON",
  "3PAR|3PHAR|3QAR|3RAE|3SAN|3SHIN|3TAN|3TAR|3UN|3VIN|3WE|3XAN|3YN|3ZEN|3ZHAR|1LETTER AEN|2AIN|2AN",
  "2BAN|2CAN|2CHAR|2CHIN|2CIL|2DON|2ELIFI|2EN|2FI|2GAN|2GHAN|2HAE|2HAR|2HARD SIGN|2HE|2HIE|2HOE",
  "2IN|2JHAN|2JIL|2KAN|2KHAR|2LABIAL SIGN|2LAS|2MAN|2NAR|2ON|2PAR|2PHAR|2QAR|2RAE|2SAN|2SHIN|2TAN",
  "2TAR|2TURNED GAN|2UN|2VIN|2WE|2XAN|2YN|2ZEN|2ZHAR|1MTAVRULI CAPITAL LETTER AEN|4AIN|4AN|4BAN",
  "4CAN|4CHAR|4CHIN|4CIL|4DON|4ELIFI|4EN|4FI|4GAN|4GHAN|4HAE|4HAR|4HARD SIGN|4HE|4HIE|4HOE|4IN",
  "4JHAN|4JIL|4KAN|4KHAR|4LABIAL SIGN|4LAS|4MAN|4NAR|4ON|4PAR|4PHAR|4QAR|4RAE|4SAN|4SHIN|4TAN|4TAR",
  "4TURNED GAN|4UN|4VIN|4WE|4XAN|4YN|4ZEN|4ZHAR|1PARAGRAPH SEPARATOR|1SMALL LETTER AEN|3AN|3BAN",
  "3CAN|3CHAR|3CHIN|3CIL|3DON|3EN|3GAN|3GHAN|3HAE|3HAR|3HE|3HIE|3HOE|3IN|3JHAN|3JIL|3KAN|3KHAR",
  "3LAS|3MAN|3NAR|3ON|3PAR|3PHAR|3QAR|3RAE|3SAN|3SHIN|3TAN|3TAR|3UN|3VIN|3WE|3XAN|3YN|3ZEN|3ZHAR",
  "0GERMAN PENNY SIGN|0GETA MARK|0GHOST|0GIMEL SYMBOL|0GIRAFFE FACE|0GIRL|0GIRLS SYMBOL",
  "0GLAGOLITIC CAPITAL LETTER AZU|3BIG YUS|3BUKY|3CAUDATE CHRIVI|3CHRIVI|3DJERVI|3DOBRO|3DZELO",
  "3FITA|3FRITU|3GLAGOLI|3HERU|3I|3INITIAL IZHE|3IOTATED BIG YUS|4SMALL YUS|3IZHE|3IZHITSA|3KAKO",
  "3LATINATE MYSLITE|3LJUDIJE|3MYSLITE|3NASHI|3ONU|3OTU|3PE|3POKOJI|3RITSI|3SHA|3SHTA|3SHTAPIC",
  "3SLOVO|3SMALL YUS|5WITH TAIL|3SPIDERY HA|3TROKUTASTI A|3TSI|3TVRIDO|3UKU|3VEDE|3YATI|3YERI",
  "3YERU|3YESTU|3YO|3YU|3ZEMLJA|3ZHIVETE|1SMALL LETTER AZU|3BIG YUS|3BUKY|3CAUDATE CHRIVI|3CHRIVI",
  "3DJERVI|3DOBRO|3DZELO|3FITA|3FRITU|3GLAGOLI|3HERU|3I|3INITIAL IZHE|3IOTATED BIG YUS|4SMALL YUS",
  "3IZHE|3IZHITSA|3KAKO|3LATINATE MYSLITE|3LJUDIJE|3MYSLITE|3NASHI|3ONU|3OTU|3PE|3POKOJI|3RITSI",
  "3SHA|3SHTA|3SHTAPIC|3SLOVO|3SMALL YUS|5WITH TAIL|3SPIDERY HA|3TROKUTASTI A|3TSI|3TVRIDO|3UKU",
  "3VEDE|3YATI|3YERI|3YERU|3YESTU|3YO|3YU|3ZEMLJA|3ZHIVETE|0GLASS OF MILK|0GLEICH STARK",
  "0GLOBE WITH MERIDIANS|0GLOVES|0GLOWING STAR|0GOAL NET|0GOAT|0GOGGLES|0GOLFER|0GORILLA",
  "0GOTHIC LETTER AHSA|2AIHVUS|2BAIRKAN|2DAGS|2EIS|2FAIHU|2GIBA|2HAGL|2HWAIR|2IGGWS|2IUJA|2JER",
  "2KUSMA|2LAGUS|2MANNA|2NAUTHS|2NINE HUNDRED|2NINETY|2OTHAL|2PAIRTHRA|2QAIRTHRA|2RAIDA|2SAUIL",
  "2TEIWS|2THIUTH|2URUS|2WINJA|0GRADUATION CAP|0GRANTHA AU LENGTH MARK|1LETTER A|2AA|2AI|2AU|2BA",
  "2BHA|2CA|2CHA|2DA|2DDA|2DDHA|2DHA|2EE|2GA|2GHA|2HA|2I|2II|2JA|2JHA|2KA|2KHA|2LA|2LLA|2MA|2NA",
  "2NGA|2NNA|2NYA|2OO|2PA|2PHA|2RA|2SA|2SHA|2SSA|2TA|2THA|2TTA|2TTHA|2U|2UU|2VA|2VEDIC ANUSVARA",
  "3DOUBLE ANUSVARA|2VOCALIC L|3LL|3R|3RR|2YA|1OM|1SIGN ANUSVARA|2AVAGRAHA|2CANDRABINDU",
  "2COMBINING ANUSVARA ABOVE|2NUKTA|2PLUTA|2VIRAMA|2VISARGA|1VOWEL SIGN AA|3AI|3AU|3EE|3I|3II|3OO",
  "3U|3UU|3VOCALIC L|4LL|4R|4RR|0GRAPES|0GRAVE ACCENT",
  "0GREATER-THAN ABOVE DOUBLE-LINE EQUAL ABOVE LESS-THAN|2LESS-THAN ABOVE DOUBLE-LINE EQUAL",
  "2RIGHTWARDS ARROW|2SIMILAR ABOVE LESS-THAN|3OR EQUAL",
  "2SLANTED EQUAL ABOVE LESS-THAN ABOVE SLANTED EQUAL|1AND NOT APPROXIMATE",
  "2SINGLE-LINE NOT EQUAL TO|1BESIDE LESS-THAN|1BUT NOT EQUAL TO|3EQUIVALENT TO|1CLOSED BY CURVE",
  "4ABOVE SLANTED EQUAL|1EQUAL TO OR LESS-THAN|1OR APPROXIMATE|2EQUAL TO|2EQUIVALENT TO|2LESS-THAN",
  "2SLANTED EQUAL TO|5WITH DOT ABOVE|8LEFT|7INSIDE|1OVER EQUAL TO|1OVERLAPPING LESS-THAN|1SIGN",
  "1WITH CIRCLE INSIDE|2DOT|2QUESTION MARK ABOVE|0GREEK ACROPHONIC ATTIC FIFTY|4STATERS|4TALENTS",
  "4THOUSAND|5STATERS|3FIVE|4HUNDRED|5STATERS|5TALENTS|4STATERS|4TALENTS|4THOUSAND|5TALENTS",
  "3ONE DRACHMA|4HALF|4HUNDRED STATERS|5TALENTS|4QUARTER|4THOUSAND STATERS|5TALENTS|3TEN MNAS",
  "4STATERS|4TALENTS|4THOUSAND STATERS|2CARYSTIAN FIVE HUNDRED|2CYRENAIC TWO DRACHMAS",
  "2DELPHIC FIVE MNAS|2EPIDAUREAN FIVE HUNDRED|3TWO|4DRACHMAS|2HERAEUM ONE PLETHRON",
  "2HERMIONIAN FIFTY|3ONE|3TEN|2MESSENIAN TEN|2NAXIAN FIVE HUNDRED|2STRATIAN FIFTY MNAS",
  "2THESPIAN FIFTY|3FIVE HUNDRED|4THOUSAND|3ONE|4HUNDRED|4THOUSAND|3TEN|3THIRTY|3THREE HUNDRED",
  "3TWO|2TROEZENIAN FIFTY|4ALTERNATE FORM|3FIVE|4HUNDRED|3TEN|4ALTERNATE FORM|1ANO TELEIA",
  "1AROURA SIGN|1ARTABE SIGN|1BETA SYMBOL|1CAPITAL DOTTED LUNATE SIGMA SYMBOL|2KAI SYMBOL",
  "2LETTER ALPHA|4WITH DASIA|6AND OXIA|8AND PROSGEGRAMMENI|7PERISPOMENI|8AND PROSGEGRAMMENI",
  "7PROSGEGRAMMENI|7VARIA|8AND PROSGEGRAMMENI|5MACRON|5OXIA|5PROSGEGRAMMENI|5PSILI|6AND OXIA",
  "8AND PROSGEGRAMMENI|7PERISPOMENI|8AND PROSGEGRAMMENI|7PROSGEGRAMMENI|7VARIA|8AND PROSGEGRAMMENI",
  "5TONOS|5VARIA|5VRACHY|3ARCHAIC SAMPI|3BETA|3CHI|3DELTA|3EPSILON|4WITH DASIA|6AND OXIA|7VARIA",
  "5OXIA|5PSILI|6AND OXIA|7VARIA|5TONOS|5VARIA|3ETA|4WITH DASIA|6AND OXIA|8AND PROSGEGRAMMENI",
  "7PERISPOMENI|8AND PROSGEGRAMMENI|7PROSGEGRAMMENI|7VARIA|8AND PROSGEGRAMMENI|5OXIA",
  "5PROSGEGRAMMENI|5PSILI|6AND OXIA|8AND PROSGEGRAMMENI|7PERISPOMENI|8AND PROSGEGRAMMENI",
  "7PROSGEGRAMMENI|7VARIA|8AND PROSGEGRAMMENI|5TONOS|5VARIA|3GAMMA|3HETA|3IOTA|4WITH DASIA",
  "6AND OXIA|7PERISPOMENI|7VARIA|5DIALYTIKA|5MACRON|5OXIA|5PSILI|6AND OXIA|7PERISPOMENI|7VARIA",
  "5TONOS|5VARIA|5VRACHY|3KAPPA|3LAMDA|3MU|3NU|3OMEGA|4WITH DASIA|6AND OXIA|8AND PROSGEGRAMMENI",
  "7PERISPOMENI|8AND PROSGEGRAMMENI|7PROSGEGRAMMENI|7VARIA|8AND PROSGEGRAMMENI|5OXIA",
  "5PROSGEGRAMMENI|5PSILI|6AND OXIA|8AND PROSGEGRAMMENI|7PERISPOMENI|8AND PROSGEGRAMMENI",
  "7PROSGEGRAMMENI|7VARIA|8AND PROSGEGRAMMENI|5TONOS|5VARIA|3OMICRON|4WITH DASIA|6AND OXIA|7VARIA",
  "5OXIA|5PSILI|6AND OXIA|7VARIA|5TONOS|5VARIA|3PAMPHYLIAN DIGAMMA|3PHI|3PI|3PSI|3RHO|4WITH DASIA",
  "3SAN|3SHO|3SIGMA|3TAU|3THETA|3UPSILON|4WITH DASIA|6AND OXIA|7PERISPOMENI|7VARIA|5DIALYTIKA",
  "5MACRON|5OXIA|5TONOS|5VARIA|5VRACHY|3XI|3YOT|3ZETA|2LUNATE SIGMA SYMBOL",
  "2REVERSED DOTTED LUNATE SIGMA SYMBOL|3LUNATE SIGMA SYMBOL|2THETA SYMBOL|1DASIA|2AND OXIA",
  "3PERISPOMENI|3VARIA|1DIALYTIKA AND OXIA|3PERISPOMENI|3VARIA|2TONOS|1DRACHMA SIGN",
  "1FIVE OBOLS SIGN|1FOUR OBOLS SIGN|1GRAMMA SIGN|1INDICTION SIGN|1INSTRUMENTAL NOTATION SYMBOL-1",
  "3SYMBOL-11|3SYMBOL-12|3SYMBOL-13|3SYMBOL-14|3SYMBOL-17|3SYMBOL-18|3SYMBOL-19|3SYMBOL-2",
  "3SYMBOL-23|3SYMBOL-24|3SYMBOL-25|3SYMBOL-26|3SYMBOL-27|3SYMBOL-29|3SYMBOL-30|3SYMBOL-32",
  "3SYMBOL-36|3SYMBOL-37|3SYMBOL-38|3SYMBOL-39|3SYMBOL-4|3SYMBOL-40|3SYMBOL-42|3SYMBOL-43",
  "3SYMBOL-45|3SYMBOL-47|3SYMBOL-48|3SYMBOL-49|3SYMBOL-5|3SYMBOL-50|3SYMBOL-51|3SYMBOL-52",
  "3SYMBOL-53|3SYMBOL-54|3SYMBOL-7|3SYMBOL-8|1KAI SYMBOL|1KAPPA SYMBOL|1KORONIS|1KYATHOS BASE SIGN",
  "1LETTER ARCHAIC KOPPA|2DIGAMMA|2KOPPA|2SAMPI|2SMALL CAPITAL GAMMA|4LAMDA|4OMEGA|4PI|4PSI|4RHO",
  "2STIGMA|2YOT|1LITRA SIGN|1LOWER NUMERAL SIGN|1LUNATE EPSILON SYMBOL|2SIGMA SYMBOL",
  "1METRETES SIGN|1MUSICAL LEIMMA|1NUMERAL SIGN|1OBOL SIGN|1ONE HALF SIGN|4ALTERNATE FORM",
  "2QUARTER SIGN|1OUNKIA SIGN|1OXIA|1PERISPOMENI|1PHI SYMBOL|1PI SYMBOL|1PROSGEGRAMMENI|1PSILI",
  "2AND OXIA|3PERISPOMENI|3VARIA|1QUESTION MARK|1REVERSED LUNATE EPSILON SYMBOL|1RHO SYMBOL",
  "2WITH STROKE SYMBOL|1SINUSOID SIGN|1SMALL DOTTED LUNATE SIGMA SYMBOL|2LETTER ALPHA|4WITH DASIA",
  "6AND OXIA|8AND YPOGEGRAMMENI|7PERISPOMENI|8AND YPOGEGRAMMENI|7VARIA|8AND YPOGEGRAMMENI",
  "7YPOGEGRAMMENI|5MACRON|5OXIA|6AND YPOGEGRAMMENI|5PERISPOMENI|6AND YPOGEGRAMMENI|5PSILI",
  "6AND OXIA|8AND YPOGEGRAMMENI|7PERISPOMENI|8AND YPOGEGRAMMENI|7VARIA|8AND YPOGEGRAMMENI",
  "7YPOGEGRAMMENI|5TONOS|5VARIA|6AND YPOGEGRAMMENI|5VRACHY|5YPOGEGRAMMENI|3ARCHAIC KOPPA|4SAMPI",
  "3BETA|3CHI|3DELTA|3DIGAMMA|3EPSILON|4WITH DASIA|6AND OXIA|7VARIA|5OXIA|5PSILI|6AND OXIA|7VARIA",
  "5TONOS|5VARIA|3ETA|4WITH DASIA|6AND OXIA|8AND YPOGEGRAMMENI|7PERISPOMENI|8AND YPOGEGRAMMENI",
  "7VARIA|8AND YPOGEGRAMMENI|7YPOGEGRAMMENI|5OXIA|6AND YPOGEGRAMMENI|5PERISPOMENI",
  "6AND YPOGEGRAMMENI|5PSILI|6AND OXIA|8AND YPOGEGRAMMENI|7PERISPOMENI|8AND YPOGEGRAMMENI|7VARIA",
  "8AND YPOGEGRAMMENI|7YPOGEGRAMMENI|5TONOS|5VARIA|6AND YPOGEGRAMMENI|5YPOGEGRAMMENI|3FINAL SIGMA",
  "3GAMMA|3HETA|3IOTA|4WITH DASIA|6AND OXIA|7PERISPOMENI|7VARIA|5DIALYTIKA|6AND OXIA|7PERISPOMENI",
  "7TONOS|7VARIA|5MACRON|5OXIA|5PERISPOMENI|5PSILI|6AND OXIA|7PERISPOMENI|7VARIA|5TONOS|5VARIA",
  "5VRACHY|3KAPPA|3KOPPA|3LAMDA|3MU|3NU|3OMEGA|4WITH DASIA|6AND OXIA|8AND YPOGEGRAMMENI",
  "7PERISPOMENI|8AND YPOGEGRAMMENI|7VARIA|8AND YPOGEGRAMMENI|7YPOGEGRAMMENI|5OXIA",
  "6AND YPOGEGRAMMENI|5PERISPOMENI|6AND YPOGEGRAMMENI|5PSILI|6AND OXIA|8AND YPOGEGRAMMENI",
  "7PERISPOMENI|8AND YPOGEGRAMMENI|7VARIA|8AND YPOGEGRAMMENI|7YPOGEGRAMMENI|5TONOS|5VARIA",
  "6AND YPOGEGRAMMENI|5YPOGEGRAMMENI|3OMICRON|4WITH DASIA|6AND OXIA|7VARIA|5OXIA|5PSILI|6AND OXIA",
  "7VARIA|5TONOS|5VARIA|3PAMPHYLIAN DIGAMMA|3PHI|3PI|3PSI|3RHO|4WITH DASIA|5PSILI|3SAMPI|3SAN|3SHO",
  "3SIGMA|3STIGMA|3TAU|3THETA|3UPSILON|4WITH DASIA|6AND OXIA|7PERISPOMENI|7VARIA|5DIALYTIKA",
  "6AND OXIA|7PERISPOMENI|7TONOS|7VARIA|5MACRON|5OXIA|5PERISPOMENI|5PSILI|6AND OXIA|7PERISPOMENI",
  "7VARIA|5TONOS|5VARIA|5VRACHY|3XI|3ZETA|2REVERSED DOTTED LUNATE SIGMA SYMBOL",
  "3LUNATE SIGMA SYMBOL|1SUBSCRIPT SMALL LETTER BETA|4CHI|4GAMMA|4PHI|4RHO|1SYMBOL TAU RHO",
  "1TALENT SIGN|1THETA SYMBOL|1THREE OBOLS SIGN|2QUARTERS SIGN|1TONOS|1TRYBLION BASE SIGN",
  "1TWO OBOLS SIGN|2THIRDS SIGN|1UPSILON WITH ACUTE AND HOOK SYMBOL|3DIAERESIS AND HOOK SYMBOL",
  "3HOOK SYMBOL|1VARIA|1VOCAL NOTATION SYMBOL-1|3SYMBOL-10|3SYMBOL-11|3SYMBOL-12|3SYMBOL-13",
  "3SYMBOL-14|3SYMBOL-15|3SYMBOL-16|3SYMBOL-17|3SYMBOL-18|3SYMBOL-19|3SYMBOL-2|3SYMBOL-20",
  "3SYMBOL-21|3SYMBOL-22|3SYMBOL-23|3SYMBOL-24|3SYMBOL-3|3SYMBOL-4|3SYMBOL-5|3SYMBOL-50|3SYMBOL-51",
  "3SYMBOL-52|3SYMBOL-53|3SYMBOL-54|3SYMBOL-6|3SYMBOL-7|3SYMBOL-8|3SYMBOL-9|1XESTES SIGN",
  "1YEAR SIGN|1YPOGEGRAMMENI|1ZERO SIGN|0GREEN APPLE|1BOOK|1HEART|1SALAD|0GRIMACING FACE",
  "0GRINNING CAT FACE WITH SMILING EYES|1FACE|2WITH ONE LARGE AND ONE SMALL EYE|3SMILING EYES",
  "3STAR EYES|0GROUP MARK|1SEPARATOR|0GROWING HEART|0GS|0GUARANI SIGN|0GUARDSMAN|0GUIDE DOG",
  "0GUITAR|0GUJARATI ABBREVIATION SIGN|1DIGIT EIGHT|2FIVE|2FOUR|2NINE|2ONE|2SEVEN|2SIX|2THREE|2TWO",
  "2ZERO|1LETTER A|2AA|2AI|2AU|2BA|2BHA|2CA|2CHA|2DA|2DDA|2DDHA|2DHA|2E|2GA|2GHA|2HA|2I|2II|2JA",
  "2JHA|2KA|2KHA|2LA|2LLA|2MA|2NA|2NGA|2NNA|2NYA|2O|2PA|2PHA|2RA|2SA|2SHA|2SSA|2TA|2THA|2TTA|2TTHA",
  "2U|2UU|2VA|2VOCALIC L|3LL|3R|3RR|2YA|2ZHA|1OM|1RUPEE SIGN|1SIGN ANUSVARA|2AVAGRAHA|2CANDRABINDU",
  "2CIRCLE NUKTA ABOVE|2MADDAH|2NUKTA|2SHADDA|2SUKUN|2THREE-DOT NUKTA ABOVE",
  "2TWO-CIRCLE NUKTA ABOVE|2VIRAMA|2VISARGA|1VOWEL CANDRA E|3O|2SIGN AA|3AI|3AU|3CANDRA E|4O|3E|3I",
  "3II|3O|3U|3UU|3VOCALIC L|4LL|4R|4RR|0GUNJALA GONDI DIGIT EIGHT|3FIVE|3FOUR|3NINE|3ONE|3SEVEN",
  "3SIX|3THREE|3TWO|3ZERO|2LETTER A|3AA|3AI|3AU|3BA|3BHA|3CA|3CHA|3DA|3DDA|3DDHA|3DHA|3EE|3GA|3GHA",
  "3HA|3I|3II|3JA|3JHA|3KA|3KHA|3LA|3LLA|3MA|3NA|3NGA|3OO|3PA|3PHA|3RA|3SA|3TA|3THA|3TTA|3TTHA|3U",
  "3UU|3VA|3YA|2OM|2SIGN ANUSVARA|3VISARGA|2VIRAMA|2VOWEL SIGN AA|4AI|4AU|4EE|4I|4II|4OO|4U|4UU",
  "0GURMUKHI ABBREVIATION SIGN|1ADDAK|1DIGIT EIGHT|2FIVE|2FOUR|2NINE|2ONE|2SEVEN|2SIX|2THREE|2TWO",
  "2ZERO|1EK ONKAR|1IRI|1LETTER A|2AA|2AI|2AU|2BA|2BHA|2CA|2CHA|2DA|2DDA|2DDHA|2DHA|2EE|2FA|2GA",
  "2GHA|2GHHA|2HA|2I|2II|2JA|2JHA|2KA|2KHA|2KHHA|2LA|2LLA|2MA|2NA|2NGA|2NNA|2NYA|2OO|2PA|2PHA|2RA",
  "2RRA|2SA|2SHA|2TA|2THA|2TTA|2TTHA|2U|2UU|2VA|2YA|2ZA|1SIGN ADAK BINDI|2BINDI|2NUKTA|2UDAAT",
  "2VIRAMA|2VISARGA|2YAKASH|1TIPPI|1URA|1VOWEL SIGN AA|3AI|3AU|3EE|3I|3II|3OO|3U|3UU|0HADES",
  "0HAIR SPACE|0HAIRCUT|0HALFWIDTH BLACK SQUARE|1DOWNWARDS ARROW|1FORMS LIGHT VERTICAL",
  "1HANGUL FILLER|2LETTER A|3AE|3CHIEUCH|3CIEUC|3E|3EO|3EU|3HIEUH|3I|3IEUNG|3KHIEUKH|3KIYEOK",
  "3KIYEOK-SIOS|3MIEUM|3NIEUN|3NIEUN-CIEUC|3NIEUN-HIEUH|3O|3OE|3PHIEUPH|3PIEUP|3PIEUP-SIOS|3RIEUL",
  "3RIEUL-HIEUH|3RIEUL-KIYEOK|3RIEUL-MIEUM|3RIEUL-PHIEUPH|3RIEUL-PIEUP|3RIEUL-SIOS|3RIEUL-THIEUTH",
  "3SIOS|3SSANGCIEUC|3SSANGKIYEOK|3SSANGPIEUP|3SSANGSIOS|3SSANGTIKEUT|3THIEUTH|3TIKEUT|3U|3WA|3WAE",
  "3WE|3WEO|3WI|3YA|3YAE|3YE|3YEO|3YI|3YO|3YU|1IDEOGRAPHIC COMMA|2FULL STOP|1KATAKANA LETTER A|3E",
  "3HA|3HE|3HI|3HO|3HU|3I|3KA|3KE|3KI|3KO|3KU|3MA|3ME|3MI|3MO|3MU|3N|3NA|3NE|3NI|3NO|3NU|3O|3RA",
  "3RE|3RI|3RO|3RU|3SA|3SE|3SI|3SMALL A|4E|4I|4O|4TU|4U|4YA|4YO|4YU|3SO|3SU|3TA|3TE|3TI|3TO|3TU|3U",
  "3WA|3WO|3YA|3YO|3YU|2MIDDLE DOT|2SEMI-VOICED SOUND MARK|2VOICED SOUND MARK",
  "1KATAKANA-HIRAGANA PROLONGED SOUND MARK|1LEFT CORNER BRACKET|1LEFTWARDS ARROW",
  "1RIGHT CORNER BRACKET|1RIGHTWARDS ARROW|1UPWARDS ARROW|1WHITE CIRCLE|0HAMBURGER|0HAMMER",
  "1AND PICK|2SICKLE|2WRENCH|0HAMSA|0HAMSTER FACE|0HAND WITH INDEX AND MIDDLE FINGERS CROSSED",
  "3FINGER AND THUMB CROSSED|0HANDBAG|0HANDBALL|0HANDSHAKE|0HANGUL CHOSEONG CEONGCHIEUMCHIEUCH",
  "2CEONGCHIEUMCIEUC|2CEONGCHIEUMSIOS|2CEONGCHIEUMSSANGCIEUC|2CEONGCHIEUMSSANGSIOS|2CHIEUCH",
  "2CHIEUCH-HIEUH|2CHIEUCH-KHIEUKH|2CHITUEUMCHIEUCH|2CHITUEUMCIEUC|2CHITUEUMSIOS",
  "2CHITUEUMSSANGCIEUC|2CHITUEUMSSANGSIOS|2CIEUC|2CIEUC-IEUNG|2FILLER|2HIEUH|2HIEUH-SIOS|2IEUNG",
  "2IEUNG-CHIEUCH|2IEUNG-CIEUC|2IEUNG-HIEUH|2IEUNG-KIYEOK|2IEUNG-MIEUM|2IEUNG-PANSIOS",
  "2IEUNG-PHIEUPH|2IEUNG-PIEUP|2IEUNG-RIEUL|2IEUNG-SIOS|2IEUNG-THIEUTH|2IEUNG-TIKEUT",
  "2KAPYEOUNMIEUM|2KAPYEOUNPHIEUPH|2KAPYEOUNPIEUP|2KAPYEOUNRIEUL|2KAPYEOUNSSANGPIEUP|2KHIEUKH",
  "2KIYEOK|2KIYEOK-TIKEUT|2MIEUM|2MIEUM-KIYEOK|2MIEUM-PIEUP|2MIEUM-SIOS|2MIEUM-TIKEUT|2NIEUN",
  "2NIEUN-CIEUC|2NIEUN-HIEUH|2NIEUN-KIYEOK|2NIEUN-PIEUP|2NIEUN-SIOS|2NIEUN-TIKEUT|2PANSIOS",
  "2PHIEUPH|2PHIEUPH-HIEUH|2PHIEUPH-PIEUP|2PIEUP|2PIEUP-CHIEUCH|2PIEUP-CIEUC|2PIEUP-HIEUH",
  "2PIEUP-KHIEUKH|2PIEUP-KIYEOK|2PIEUP-NIEUN|2PIEUP-PHIEUPH|2PIEUP-SIOS|2PIEUP-SIOS-CIEUC",
  "2PIEUP-SIOS-KIYEOK|2PIEUP-SIOS-PIEUP|2PIEUP-SIOS-THIEUTH|2PIEUP-SIOS-TIKEUT|2PIEUP-SSANGSIOS",
  "2PIEUP-THIEUTH|2PIEUP-TIKEUT|2RIEUL|2RIEUL-CIEUC|2RIEUL-HIEUH|2RIEUL-KAPYEOUNPIEUP",
  "2RIEUL-KHIEUKH|2RIEUL-KIYEOK|2RIEUL-MIEUM|2RIEUL-NIEUN|2RIEUL-PIEUP|2RIEUL-SIOS",
  "2RIEUL-SSANGKIYEOK|2RIEUL-SSANGPIEUP|2RIEUL-SSANGTIKEUT|2RIEUL-TIKEUT|2SIOS|2SIOS-CHIEUCH",
  "2SIOS-CIEUC|2SIOS-HIEUH|2SIOS-IEUNG|2SIOS-KHIEUKH|2SIOS-KIYEOK|2SIOS-MIEUM|2SIOS-NIEUN",
  "2SIOS-PHIEUPH|2SIOS-PIEUP|2SIOS-PIEUP-KIYEOK|2SIOS-RIEUL|2SIOS-SSANGSIOS|2SIOS-THIEUTH",
  "2SIOS-TIKEUT|2SSANGCIEUC|2SSANGCIEUC-HIEUH|2SSANGHIEUH|2SSANGIEUNG|2SSANGKIYEOK|2SSANGNIEUN",
  "2SSANGPIEUP|2SSANGRIEUL|2SSANGSIOS|2SSANGSIOS-PIEUP|2SSANGTHIEUTH|2SSANGTIKEUT",
  "2SSANGYEORINHIEUH|2THIEUTH|2TIKEUT|2TIKEUT-CIEUC|2TIKEUT-KIYEOK|2TIKEUT-MIEUM|2TIKEUT-PIEUP",
  "2TIKEUT-RIEUL|2TIKEUT-SIOS|2YEORINHIEUH|2YESIEUNG|1DOUBLE DOT TONE MARK|1FILLER",
  "1JONGSEONG CHIEUCH|2CIEUC|2CIEUC-PIEUP|2CIEUC-SSANGPIEUP|2HIEUH|2HIEUH-MIEUM|2HIEUH-NIEUN",
  "2HIEUH-PIEUP|2HIEUH-RIEUL|2IEUNG|2IEUNG-KHIEUKH|2IEUNG-KIYEOK|2IEUNG-SSANGKIYEOK|2KAPYEOUNMIEUM",
  "2KAPYEOUNPHIEUPH|2KAPYEOUNPIEUP|2KAPYEOUNRIEUL|2KHIEUKH|2KIYEOK|2KIYEOK-CHIEUCH|2KIYEOK-HIEUH",
  "2KIYEOK-KHIEUKH|2KIYEOK-NIEUN|2KIYEOK-PIEUP|2KIYEOK-RIEUL|2KIYEOK-SIOS|2KIYEOK-SIOS-KIYEOK",
  "2MIEUM|2MIEUM-CHIEUCH|2MIEUM-CIEUC|2MIEUM-HIEUH|2MIEUM-KIYEOK|2MIEUM-NIEUN|2MIEUM-PANSIOS",
  "2MIEUM-PIEUP|2MIEUM-PIEUP-SIOS|2MIEUM-RIEUL|2MIEUM-SIOS|2MIEUM-SSANGNIEUN|2MIEUM-SSANGSIOS",
  "2NIEUN|2NIEUN-CHIEUCH|2NIEUN-CIEUC|2NIEUN-HIEUH|2NIEUN-KIYEOK|2NIEUN-PANSIOS|2NIEUN-RIEUL",
  "2NIEUN-SIOS|2NIEUN-THIEUTH|2NIEUN-TIKEUT|2PANSIOS|2PANSIOS-KAPYEOUNPIEUP|2PANSIOS-PIEUP",
  "2PHIEUPH|2PHIEUPH-PIEUP|2PHIEUPH-SIOS|2PHIEUPH-THIEUTH|2PIEUP|2PIEUP-CHIEUCH|2PIEUP-CIEUC",
  "2PIEUP-HIEUH|2PIEUP-MIEUM|2PIEUP-PHIEUPH|2PIEUP-RIEUL|2PIEUP-RIEUL-PHIEUPH|2PIEUP-SIOS",
  "2PIEUP-SIOS-TIKEUT|2PIEUP-TIKEUT|2RIEUL|2RIEUL-HIEUH|2RIEUL-KAPYEOUNPIEUP|2RIEUL-KHIEUKH",
  "2RIEUL-KIYEOK|2RIEUL-KIYEOK-HIEUH|2RIEUL-KIYEOK-SIOS|2RIEUL-MIEUM|2RIEUL-MIEUM-HIEUH",
  "2RIEUL-MIEUM-KIYEOK|2RIEUL-MIEUM-SIOS|2RIEUL-NIEUN|2RIEUL-PANSIOS|2RIEUL-PHIEUPH|2RIEUL-PIEUP",
  "2RIEUL-PIEUP-HIEUH|2RIEUL-PIEUP-PHIEUPH|2RIEUL-PIEUP-SIOS|2RIEUL-PIEUP-TIKEUT|2RIEUL-SIOS",
  "2RIEUL-SSANGKIYEOK|2RIEUL-SSANGSIOS|2RIEUL-THIEUTH|2RIEUL-TIKEUT|2RIEUL-TIKEUT-HIEUH",
  "2RIEUL-YEORINHIEUH|2RIEUL-YEORINHIEUH-HIEUH|2RIEUL-YESIEUNG|2SIOS|2SIOS-CHIEUCH|2SIOS-CIEUC",
  "2SIOS-HIEUH|2SIOS-KAPYEOUNPIEUP|2SIOS-KIYEOK|2SIOS-MIEUM|2SIOS-PANSIOS|2SIOS-PIEUP|2SIOS-RIEUL",
  "2SIOS-THIEUTH|2SIOS-TIKEUT|2SSANGCIEUC|2SSANGIEUNG|2SSANGKIYEOK|2SSANGMIEUM|2SSANGNIEUN",
  "2SSANGPIEUP|2SSANGRIEUL|2SSANGRIEUL-KHIEUKH|2SSANGSIOS|2SSANGSIOS-KIYEOK|2SSANGSIOS-TIKEUT",
  "2SSANGTIKEUT|2SSANGTIKEUT-PIEUP|2SSANGYESIEUNG|2THIEUTH|2TIKEUT|2TIKEUT-CHIEUCH|2TIKEUT-CIEUC",
  "2TIKEUT-KIYEOK|2TIKEUT-PIEUP|2TIKEUT-RIEUL|2TIKEUT-SIOS|2TIKEUT-SIOS-KIYEOK|2TIKEUT-THIEUTH",
  "2YEORINHIEUH|2YESIEUNG|2YESIEUNG-HIEUH|2YESIEUNG-KHIEUKH|2YESIEUNG-KIYEOK|2YESIEUNG-MIEUM",
  "2YESIEUNG-PANSIOS|2YESIEUNG-SIOS|2YESIEUNG-SSANGKIYEOK|1JUNGSEONG A|2A-EU|2A-O|2A-U|2AE|2ARAEA",
  "2ARAEA-A|2ARAEA-E|2ARAEA-EO|2ARAEA-I|2ARAEA-U|2E|2EO|2EO-EU|2EO-O|2EO-U|2EU|2EU-A|2EU-E|2EU-EO",
  "2EU-EU|2EU-O|2EU-U|2FILLER|2I|2I-A|2I-ARAEA|2I-EU|2I-I|2I-O|2I-O-I|2I-U|2I-YA|2I-YA-O|2I-YAE",
  "2I-YE|2I-YEO|2I-YO|2I-YU|2O|2O-E|2O-EO|2O-O|2O-O-I|2O-U|2O-YA|2O-YAE|2O-YE|2O-YEO|2OE",
  "2SSANGARAEA|2U|2U-A|2U-AE|2U-EO-EU|2U-I-I|2U-U|2U-YE|2U-YEO|2WA|2WAE|2WE|2WEO|2WI|2YA|2YA-O",
  "2YA-U|2YA-YO|2YAE|2YE|2YEO|2YEO-O|2YEO-U|2YEO-YA|2YI|2YI-U|2YO|2YO-A|2YO-AE|2YO-EO|2YO-I|2YO-O",
  "2YO-YA|2YO-YAE|2YO-YEO|2YU|2YU-A|2YU-AE|2YU-E|2YU-EO|2YU-I|2YU-O|2YU-U|2YU-YE|2YU-YEO|1LETTER A",
  "2AE|2ARAEA|2ARAEAE|2CHIEUCH|2CIEUC|2E|2EO|2EU|2HIEUH|2I|2IEUNG|2KAPYEOUNMIEUM|2KAPYEOUNPHIEUPH",
  "2KAPYEOUNPIEUP|2KAPYEOUNSSANGPIEUP|2KHIEUKH|2KIYEOK|2KIYEOK-SIOS|2MIEUM|2MIEUM-PANSIOS",
  "2MIEUM-PIEUP|2MIEUM-SIOS|2NIEUN|2NIEUN-CIEUC|2NIEUN-HIEUH|2NIEUN-PANSIOS|2NIEUN-SIOS",
  "2NIEUN-TIKEUT|2O|2OE|2PANSIOS|2PHIEUPH|2PIEUP|2PIEUP-CIEUC|2PIEUP-KIYEOK|2PIEUP-SIOS",
  "2PIEUP-SIOS-KIYEOK|2PIEUP-SIOS-TIKEUT|2PIEUP-THIEUTH|2PIEUP-TIKEUT|2RIEUL|2RIEUL-HIEUH",
  "2RIEUL-KIYEOK|2RIEUL-KIYEOK-SIOS|2RIEUL-MIEUM|2RIEUL-PANSIOS|2RIEUL-PHIEUPH|2RIEUL-PIEUP",
  "2RIEUL-PIEUP-SIOS|2RIEUL-SIOS|2RIEUL-THIEUTH|2RIEUL-TIKEUT|2RIEUL-YEORINHIEUH|2SIOS|2SIOS-CIEUC",
  "2SIOS-KIYEOK|2SIOS-NIEUN|2SIOS-PIEUP|2SIOS-TIKEUT|2SSANGCIEUC|2SSANGHIEUH|2SSANGIEUNG",
  "2SSANGKIYEOK|2SSANGNIEUN|2SSANGPIEUP|2SSANGSIOS|2SSANGTIKEUT|2THIEUTH|2TIKEUT|2U|2WA|2WAE|2WE",
  "2WEO|2WI|2YA|2YAE|2YE|2YEO|2YEORINHIEUH|2YESIEUNG|2YESIEUNG-PANSIOS|2YESIEUNG-SIOS|2YI|2YO",
  "2YO-I|2YO-YA|2YO-YAE|2YU|2YU-I|2YU-YE|2YU-YEO|1SINGLE DOT TONE MARK|0HANGZHOU NUMERAL EIGHT",
  "2FIVE|2FOUR|2NINE|2ONE|2SEVEN|2SIX|2TEN|2THIRTY|2THREE|2TWENTY|2TWO",
  "0HANIFI ROHINGYA DIGIT EIGHT|3FIVE|3FOUR|3NINE|3ONE|3SEVEN|3SIX|3THREE|3TWO|3ZERO|2LETTER A|3BA",
  "3CA|3DA|3DDA|3FA|3GA|3HA|3JA|3KA|3KHA|3KINNA WA|4YA|3LA|3MA|3NA|3NGA|3NYA|3PA|3RA|3RRA|3SA|3SHA",
  "3TA|3TTA|3VA|3WA|3YA|3ZA|2MARK NA KHONNA|3SAKIN|2SIGN HARBAHAY|3TAHALA|3TANA|3TASSI|2VOWEL A|3E",
  "3I|3O|3U|0HANUNOO LETTER A|2BA|2DA|2GA|2HA|2I|2KA|2LA|2MA|2NA|2NGA|2PA|2RA|2SA|2TA|2U|2WA|2YA",
  "1SIGN PAMUDPOD|1VOWEL SIGN I|3U|0HAPPY PERSON RAISING ONE HAND|0HARD DISK|0HATCHING CHICK",
  "0HATRAN LETTER ALEPH|2AYN|2BETH|2DALETH-RESH|2GIMEL|2HE|2HETH|2KAPH|2LAMEDH|2MEM|2NUN|2PE|2QOPH",
  "2SADHE|2SAMEKH|2SHIN|2TAW|2TETH|2WAW|2YODH|2ZAYN|1NUMBER FIVE|2ONE|3HUNDRED|2TEN|2TWENTY",
  "0HEADPHONE|0HEADSTONE|1GRAVEYARD SYMBOL|0HEAR-NO-EVIL MONKEY|0HEART DECORATION|1HANDS",
  "1WITH ARROW|2RIBBON|2TIP ON THE LEFT|0HEAVY AMPERSAND ORNAMENT|1ARROW SHAFT WIDTH ONE|5HALF",
  "5THIRD|4TWO THIRDS|1ASTERISK|1BALLOT X|1BLACK CURVED DOWNWARDS AND RIGHTWARDS ARROW",
  "3UPWARDS AND RIGHTWARDS ARROW|2HEART|1BLACK-FEATHERED NORTH EAST ARROW|2RIGHTWARDS ARROW",
  "2SOUTH EAST ARROW|1CHECK MARK|1CHEVRON SNOWFLAKE|1CIRCLE|2WITH CIRCLE INSIDE",
  "3STROKE AND TWO DOTS ABOVE|1CIRCLED SALTIRE|1CONCAVE-POINTED BLACK RIGHTWARDS ARROW",
  "1DASHED TRIANGLE-HEADED RIGHTWARDS ARROW|1DIVISION SIGN|1DOLLAR SIGN",
  "1DOUBLE COMMA QUOTATION MARK ORNAMENT|2TURNED COMMA QUOTATION MARK ORNAMENT",
  "1DOWNWARDS ARROW WITH EQUILATERAL ARROWHEAD|4LARGE EQUILATERAL ARROWHEAD",
  "1EIGHT POINTED BLACK STAR|3PINWHEEL STAR|3RECTILINEAR BLACK STAR|2SPOKED ASTERISK",
  "2TEARDROP-SPOKED PROPELLER ASTERISK|1EQUALS SIGN|1EXCLAMATION MARK ORNAMENT|3SYMBOL",
  "1FIVE POINTED BLACK STAR|2SPOKED ASTERISK|1FOUR BALLOON-SPOKED ASTERISK|1GREEK CROSS",
  "1HEART EXCLAMATION MARK ORNAMENT|1HORIZONTAL FILL|1INTERROBANG ORNAMENT|1LARGE CIRCLE",
  "1LATIN CROSS|1LEFT-POINTING ANGLE BRACKET ORNAMENT|3QUOTATION MARK ORNAMENT",
  "1LEFTWARDS ARROW WITH EQUILATERAL ARROWHEAD|4LARGE EQUILATERAL ARROWHEAD",
  "1LIGATURE OPEN ET ORNAMENT|1LOW DOUBLE COMMA QUOTATION MARK ORNAMENT",
  "2SINGLE COMMA QUOTATION MARK ORNAMENT|1LOWER RIGHT-SHADOWED WHITE RIGHTWARDS ARROW|1MINUS SIGN",
  "1MULTIPLICATION X|1NORTH EAST ARROW|3POINTING BUD|4VINE LEAF|2WEST POINTING BUD|4VINE LEAF",
  "1OPEN CENTRE CROSS|1OUTLINED BLACK STAR|1OVAL WITH OVAL INSIDE|1PLUS SIGN",
  "1RIGHT-POINTING ANGLE BRACKET ORNAMENT|3QUOTATION MARK ORNAMENT|1RIGHTWARDS ARROW",
  "3WITH EQUILATERAL ARROWHEAD|4LARGE EQUILATERAL ARROWHEAD|1ROUND-TIPPED RIGHTWARDS ARROW",
  "1SALTIRE|1SANS-SERIF INTERROBANG ORNAMENT|1SCRIPT LIGATURE ET ORNAMENT",
  "1SINGLE COMMA QUOTATION MARK ORNAMENT|2TURNED COMMA QUOTATION MARK ORNAMENT",
  "1SIX POINTED BLACK STAR|2SPOKED ASTERISK|1SOUTH EAST ARROW|3POINTING BUD|4VINE LEAF",
  "2WEST POINTING BUD|4VINE LEAF|1SPARKLE|1TEARDROP-SHANKED RIGHTWARDS ARROW",
  "1TEARDROP-SPOKED ASTERISK|2PINWHEEL ASTERISK|1TRIANGLE-HEADED RIGHTWARDS ARROW",
  "1TWELVE POINTED BLACK STAR|3PINWHEEL STAR|1UPPER RIGHT-SHADOWED WHITE RIGHTWARDS ARROW",
  "1UPWARDS ARROW WITH EQUILATERAL ARROWHEAD|4LARGE EQUILATERAL ARROWHEAD|1VERTICAL BAR",
  "1WEDGE-TAILED RIGHTWARDS ARROW|1WHITE CIRCLE|2DOWN-POINTING TRIANGLE|2SQUARE",
  "1WIDE-HEADED RIGHTWARDS ARROW|0HEBREW ACCENT ATNAH HAFUKH|2DARGA|2DEHI|2ETNAHTA|2GERESH|3MUQDAM",
  "2GERSHAYIM|2ILUY|2MAHAPAKH|2MERKHA|3KEFULA|2MUNAH|2OLE|2PASHTA|2PAZER|2QADMA|2QARNEY PARA",
  "2REVIA|2SEGOL|2SHALSHELET|2TELISHA GEDOLA|3QETANA|2TEVIR|2TIPEHA|2YERAH BEN YOMO|2YETIV",
  "2ZAQEF GADOL|3QATAN|2ZARQA|2ZINOR|1LETTER ALEF|3WITH MAPIQ|4PATAH|4QAMATS|2ALTERNATIVE AYIN",
  "3PLUS SIGN|2AYIN|2BET|3WITH DAGESH|4RAFE|2DALET|3WITH DAGESH|2FINAL KAF|4WITH DAGESH|3MEM|3NUN",
  "3PE|4WITH DAGESH|3TSADI|2GIMEL|3WITH DAGESH|2HE|3WITH MAPIQ|2HET|2KAF|3WITH DAGESH|4RAFE|2LAMED",
  "3WITH DAGESH|2MEM|3WITH DAGESH|2NUN|3WITH DAGESH|2PE|3WITH DAGESH|4RAFE|2QOF|3WITH DAGESH|2RESH",
  "3WITH DAGESH|2SAMEKH|3WITH DAGESH|2SHIN|3WITH DAGESH|5AND SHIN DOT|6SIN DOT|4SHIN DOT|4SIN DOT",
  "2TAV|3WITH DAGESH|2TET|3WITH DAGESH|2TSADI|3WITH DAGESH|2VAV|3WITH DAGESH|4HOLAM|2WIDE ALEF",
  "3DALET|3FINAL MEM|3HE|3KAF|3LAMED|3RESH|3TAV|2YOD|3WITH DAGESH|4HIRIQ|2ZAYIN|3WITH DAGESH",
  "1LIGATURE ALEF LAMED|2YIDDISH DOUBLE VAV|4YOD|3VAV YOD|3YOD YOD PATAH|1MARK LOWER DOT",
  "2MASORA CIRCLE|2UPPER DOT|1POINT DAGESH OR MAPIQ|2HATAF PATAH|3QAMATS|3SEGOL|2HIRIQ|2HOLAM",
  "3HASER FOR VAV|2JUDEO-SPANISH VARIKA|2METEG|2PATAH|2QAMATS|3QATAN|2QUBUTS|2RAFE|2SEGOL|2SHEVA",
  "2SHIN DOT|2SIN DOT|2TSERE|1PUNCTUATION GERESH|2GERSHAYIM|2MAQAF|2NUN HAFUKHA|2PASEQ|2SOF PASUQ",
  "1YOD TRIANGLE|0HEDGEHOG|0HELICOPTER|0HELLSCHREIBER PAUSE SYMBOL|0HELM SYMBOL",
  "0HELMET WITH WHITE CROSS|0HENTAIGANA LETTER A-1|2A-2|2A-3|2A-WO|2E-1|2E-2|2E-3|2E-4|2E-5|2E-6",
  "2HA-1|2HA-10|2HA-11|2HA-2|2HA-3|2HA-4|2HA-5|2HA-6|2HA-7|2HA-8|2HA-9|2HE-1|2HE-2|2HE-3|2HE-4",
  "2HE-5|2HE-6|2HE-7|2HI-1|2HI-2|2HI-3|2HI-4|2HI-5|2HI-6|2HI-7|2HO-1|2HO-2|2HO-3|2HO-4|2HO-5|2HO-6",
  "2HO-7|2HO-8|2HU-1|2HU-2|2HU-3|2I-1|2I-2|2I-3|2I-4|2KA-1|2KA-10|2KA-11|2KA-2|2KA-3|2KA-4|2KA-5",
  "2KA-6|2KA-7|2KA-8|2KA-9|2KA-KE|2KE-1|2KE-2|2KE-3|2KE-4|2KE-5|2KE-6|2KI-1|2KI-2|2KI-3|2KI-4",
  "2KI-5|2KI-6|2KI-7|2KI-8|2KO-1|2KO-2|2KO-3|2KO-KI|2KU-1|2KU-2|2KU-3|2KU-4|2KU-5|2KU-6|2KU-7",
  "2MA-1|2MA-2|2MA-3|2MA-4|2MA-5|2MA-6|2MA-7|2ME-1|2ME-2|2ME-MA|2MI-1|2MI-2|2MI-3|2MI-4|2MI-5",
  "2MI-6|2MI-7|2MO-1|2MO-2|2MO-3|2MO-4|2MO-5|2MO-6|2MU-1|2MU-2|2MU-3|2MU-4|2N-MU-MO-1|2N-MU-MO-2",
  "2NA-1|2NA-2|2NA-3|2NA-4|2NA-5|2NA-6|2NA-7|2NA-8|2NA-9|2NE-1|2NE-2|2NE-3|2NE-4|2NE-5|2NE-6",
  "2NE-KO|2NI-1|2NI-2|2NI-3|2NI-4|2NI-5|2NI-6|2NI-7|2NI-TE|2NO-1|2NO-2|2NO-3|2NO-4|2NO-5|2NU-1",
  "2NU-2|2NU-3|2O-1|2O-2|2O-3|2RA-1|2RA-2|2RA-3|2RA-4|2RE-1|2RE-2|2RE-3|2RE-4|2RI-1|2RI-2|2RI-3",
  "2RI-4|2RI-5|2RI-6|2RI-7|2RO-1|2RO-2|2RO-3|2RO-4|2RO-5|2RO-6|2RU-1|2RU-2|2RU-3|2RU-4|2RU-5|2RU-6",
  "2SA-1|2SA-2|2SA-3|2SA-4|2SA-5|2SA-6|2SA-7|2SA-8|2SE-1|2SE-2|2SE-3|2SE-4|2SE-5|2SI-1|2SI-2|2SI-3",
  "2SI-4|2SI-5|2SI-6|2SO-1|2SO-2|2SO-3|2SO-4|2SO-5|2SO-6|2SO-7|2SU-1|2SU-2|2SU-3|2SU-4|2SU-5|2SU-6",
  "2SU-7|2SU-8|2TA-1|2TA-2|2TA-3|2TA-4|2TE-1|2TE-2|2TE-3|2TE-4|2TE-5|2TE-6|2TE-7|2TE-8|2TE-9|2TI-1",
  "2TI-2|2TI-3|2TI-4|2TI-5|2TI-6|2TI-7|2TO-1|2TO-2|2TO-3|2TO-4|2TO-5|2TO-6|2TO-RA|2TU-1|2TU-2",
  "2TU-3|2TU-4|2TU-TO|2U-1|2U-2|2U-3|2U-4|2U-5|2WA-1|2WA-2|2WA-3|2WA-4|2WA-5|2WE-1|2WE-2|2WE-3",
  "2WE-4|2WI-1|2WI-2|2WI-3|2WI-4|2WI-5|2WO-1|2WO-2|2WO-3|2WO-4|2WO-5|2WO-6|2WO-7|2YA-1|2YA-2|2YA-3",
  "2YA-4|2YA-5|2YA-YO|2YO-1|2YO-2|2YO-3|2YO-4|2YO-5|2YO-6|2YU-1|2YU-2|2YU-3|2YU-4|0HERB",
  "0HERMITIAN CONJUGATE MATRIX|0HEXAGRAM FOR ABUNDANCE|2AFTER COMPLETION|2APPROACH",
  "2BEFORE COMPLETION|2BITING THROUGH|2BREAKTHROUGH|2COMING TO MEET|2CONFLICT|2CONTEMPLATION",
  "2DARKENING OF THE LIGHT|2DECREASE|2DELIVERANCE|2DEVELOPMENT|2DIFFICULTY AT THE BEGINNING",
  "2DISPERSION|2DURATION|2ENTHUSIASM|2FELLOWSHIP|2FOLLOWING|2GATHERING TOGETHER|2GRACE",
  "2GREAT POSSESSION|3POWER|3PREPONDERANCE|3TAMING|2HOLDING TOGETHER|2INCREASE|2INFLUENCE",
  "2INNER TRUTH|2INNOCENCE|2LIMITATION|2MODESTY|2MOUTH CORNERS|2OBSTRUCTION|2OPPOSITION",
  "2OPPRESSION|2PEACE|2PROGRESS|2PUSHING UPWARD|2RETREAT|2RETURN|2REVOLUTION|2SMALL PREPONDERANCE",
  "3TAMING|2SPLITTING APART|2STANDSTILL|2THE ABYSMAL WATER|3ARMY|3AROUSING THUNDER|3CAULDRON",
  "3CLINGING FIRE|3CREATIVE HEAVEN|3FAMILY|3GENTLE WIND|3JOYOUS LAKE|3KEEPING STILL MOUNTAIN",
  "3MARRYING MAIDEN|3RECEPTIVE EARTH|3WANDERER|3WELL|2TREADING|2WAITING|2WORK ON THE DECAYED",
  "2YOUTHFUL FOLLY|0HIBISCUS|0HIGH BRIGHTNESS SYMBOL|1OCTET PRESET|1VOLTAGE SIGN|0HIGH-HEELED SHOE",
  "0HIGH-SPEED TRAIN|2WITH BULLET NOSE|0HIKING BOOT|0HINDU TEMPLE|0HIPPOPOTAMUS",
  "0HIRAGANA DIGRAPH YORI|1ITERATION MARK|1LETTER A|2ARCHAIC WU|3YE|2BA|2BE|2BI|2BO|2BU|2DA|2DE",
  "2DI|2DO|2DU|2E|2GA|2GE|2GI|2GO|2GU|2HA|2HE|2HI|2HO|2HU|2I|2KA|2KE|2KI|2KO|2KU|2MA|2ME|2MI|2MO",
  "2MU|2N|2NA|2NE|2NI|2NO|2NU|2O|2PA|2PE|2PI|2PO|2PU|2RA|2RE|2RI|2RO|2RU|2SA|2SE|2SI|2SMALL A|3E",
  "3I|3KA|3KE|3O|3TU|3U|3WA|3WE|3WI|3WO|3YA|3YO|3YU|2SO|2SU|2TA|2TE|2TI|2TO|2TU|2U|2VU|2WA|2WE|2WI",
  "2WO|2YA|2YO|2YU|2ZA|2ZE|2ZI|2ZO|2ZU|1VOICED ITERATION MARK|0HISTORIC SITE|0HOCHO|0HOLE",
  "0HOLLOW QUILT SQUARE ORNAMENT|4IN BLACK SQUARE|0HOMOTHETIC|0HONEY POT|0HONEYBEE|0HOOK|0HOP",
  "0HORIZONTAL BAR|1BLACK HEXAGON|2OCTAGON|1ELLIPSIS|1LINE EXTENSION|1MALE WITH STROKE SIGN",
  "1ONE EIGHTH BLOCK-1358|3BLOCK-2|3BLOCK-3|3BLOCK-4|3BLOCK-5|3BLOCK-6|3BLOCK-7|1SCAN LINE-1",
  "2LINE-3|2LINE-7|2LINE-9|1TAB KEY|1TABULATION|2SET|2WITH JUSTIFICATION|1TRAFFIC LIGHT|0HORSE",
  "1FACE|1RACING|0HOSPITAL|0HOT BEVERAGE|1DOG|1PEPPER|1SPRINGS|0HOTEL|0HOURGLASS",
  "1WITH FLOWING SAND|0HOUSE|1BUILDING|1BUILDINGS|1WITH GARDEN|0HRYVNIA SIGN|0HT|0HTJ|0HTS",
  "0HUGGING FACE|0HUNDRED POINTS SYMBOL|0HUSHED FACE|0HUT|0HYGIEA|0HYPHEN|1BULLET|1WITH DIAERESIS",
  "0HYPHEN-MINUS|0HYPHENATION POINT|0HYPODIASTOLE|0HYSTERESIS SYMBOL"]

def namesFromI : List String := [
  "0I LOVE YOU HAND SIGN|0ICE CREAM|1CUBE|1HOCKEY STICK AND PUCK|1SKATE|0IDENTICAL TO",
  "2AND SLANTED PARALLEL|1WITH DOT ABOVE|0IDENTIFICATION CARD|0IDEOGRAPHIC ANNOTATION BOTTOM MARK",
  "2EARTH MARK|2FIRST MARK|2FOUR MARK|2FOURTH MARK|2HEAVEN MARK|2LINKING MARK|2MAN MARK",
  "2MIDDLE MARK|2ONE MARK|2REVERSE MARK|2SECOND MARK|2THIRD MARK|2THREE MARK|2TOP MARK|2TWO MARK",
  "1CLOSING MARK|1COMMA|1DEPARTING TONE MARK|1DESCRIPTION CHARACTER ABOVE TO BELOW",
  "5MIDDLE AND BELOW|3FULL SURROUND|3LEFT TO MIDDLE AND RIGHT|5RIGHT|3OVERLAID",
  "3SURROUND FROM ABOVE|5BELOW|5LEFT|5LOWER LEFT|5UPPER LEFT|6RIGHT|1ENTERING TONE MARK|1FULL STOP",
  "1HALF FILL SPACE|1ITERATION MARK|1LEVEL TONE MARK|1NUMBER ZERO|1RISING TONE MARK|1SPACE",
  "1TALLY MARK FIVE|3FOUR|3ONE|3THREE|3TWO|1TELEGRAPH LINE FEED SEPARATOR SYMBOL|2SYMBOL FOR APRIL",
  "4AUGUST|4DAY EIGHT|5EIGHTEEN|5ELEVEN|5FIFTEEN|5FIVE|5FOUR|5FOURTEEN|5NINE|5NINETEEN|5ONE|5SEVEN",
  "5SEVENTEEN|5SIX|5SIXTEEN|5TEN|5THIRTEEN|5THIRTY|5THIRTY-ONE|5THREE|5TWELVE|5TWENTY",
  "5TWENTY-EIGHT|5TWENTY-FIVE|5TWENTY-FOUR|5TWENTY-NINE|5TWENTY-ONE|5TWENTY-SEVEN|5TWENTY-SIX",
  "5TWENTY-THREE|5TWENTY-TWO|5TWO|4DECEMBER|4FEBRUARY|4HOUR EIGHT|5EIGHTEEN|5ELEVEN|5FIFTEEN|5FIVE",
  "5FOUR|5FOURTEEN|5NINE|5NINETEEN|5ONE|5SEVEN|5SEVENTEEN|5SIX|5SIXTEEN|5TEN|5THIRTEEN|5THREE",
  "5TWELVE|5TWENTY|5TWENTY-FOUR|5TWENTY-ONE|5TWENTY-THREE|5TWENTY-TWO|5TWO|5ZERO|4JANUARY|4JULY",
  "4JUNE|4MARCH|4MAY|4NOVEMBER|4OCTOBER|4SEPTEMBER|1VARIATION INDICATOR|0IMAGE OF",
  "2OR APPROXIMATELY EQUAL TO|0IMP|0IMPERIAL ARAMAIC LETTER ALEPH|3AYIN|3BETH|3DALETH|3GIMEL|3HE",
  "3HETH|3KAPH|3LAMEDH|3MEM|3NUN|3PE|3QOPH|3RESH|3SADHE|3SAMEKH|3SHIN|3TAW|3TETH|3WAW|3YODH|3ZAYIN",
  "2NUMBER ONE|4HUNDRED|4THOUSAND|3TEN|4THOUSAND|3THREE|3TWENTY|3TWO|2SECTION SIGN|0INBOX TRAY",
  "0INCOMING ENVELOPE|0INCOMPLETE INFINITY|0INCREASE FONT SIZE SYMBOL|0INCREASES AS|0INCREMENT",
  "0IND|0INDEX|1POINTING AT THE VIEWER|0INDIAN RUPEE SIGN|0INDIC SIYAQ ALTERNATE LAKH MARK",
  "2FRACTION ONE HALF|4QUARTER|3THREE QUARTERS|2LAKH MARK|2NUMBER ALTERNATE ONE|4TEN THOUSAND|4TWO",
  "3EIGHT|4HUNDRED|4THOUSAND|3EIGHTY|4THOUSAND|3FIFTY|4THOUSAND|3FIVE|4HUNDRED|4THOUSAND|3FORTY",
  "4THOUSAND|3FOUR|4HUNDRED|4THOUSAND|3KAROR|3KARORAN|3LAKH|3LAKHAN|3NINE|4HUNDRED|4THOUSAND",
  "3NINETY|4THOUSAND|3ONE|4HUNDRED|4THOUSAND|3PREFIXED EIGHT|4FIVE|4FOUR|4NINE|4ONE|4SEVEN|4SIX",
  "4THREE|4TWO|3SEVEN|4HUNDRED|4THOUSAND|3SEVENTY|4THOUSAND|3SIX|4HUNDRED|4THOUSAND|3SIXTY",
  "4THOUSAND|3TEN|4THOUSAND|3THIRTY|4THOUSAND|3THREE|4HUNDRED|4THOUSAND|3TWENTY|4THOUSAND|3TWO",
  "4HUNDRED|4THOUSAND|2PLACEHOLDER|2RUPEE MARK|0INFINITY|1NEGATED WITH VERTICAL BAR",
  "0INFORMATION DESK PERSON|1SEPARATOR FOUR|2ONE|2THREE|2TWO|1SOURCE|0INHIBIT ARABIC FORM SHAPING",
  "1SYMMETRIC SWAPPING|0INPUT SYMBOL FOR LATIN CAPITAL LETTERS|4LETTERS|4SMALL LETTERS|3NUMBERS",
  "3SYMBOLS|0INSCRIPTIONAL PAHLAVI LETTER ALEPH|3BETH|3DALETH|3GIMEL|3HE|3HETH|3KAPH|3LAMEDH",
  "3MEM-QOPH|3NUN|3PE|3SADHE|3SAMEKH|3SHIN|3TAW|3TETH|3WAW-AYIN-RESH|3YODH|3ZAYIN|2NUMBER FOUR",
  "3ONE|4HUNDRED|4THOUSAND|3TEN|3THREE|3TWENTY|3TWO|1PARTHIAN LETTER ALEPH|3AYIN|3BETH|3DALETH",
  "3GIMEL|3HE|3HETH|3KAPH|3LAMEDH|3MEM|3NUN|3PE|3QOPH|3RESH|3SADHE|3SAMEKH|3SHIN|3TAW|3TETH|3WAW",
  "3YODH|3ZAYIN|2NUMBER FOUR|3ONE|4HUNDRED|4THOUSAND|3TEN|3THREE|3TWENTY|3TWO|0INSERTION SYMBOL",
  "0INTEGRAL|1AROUND A POINT OPERATOR|1AVERAGE WITH SLASH|1EXTENSION|1WITH DOUBLE STROKE",
  "2INTERSECTION|2LEFTWARDS ARROW WITH HOOK|2OVERBAR|2TIMES SIGN|2UNDERBAR|2UNION|0INTERCALATE",
  "0INTERIOR PRODUCT|0INTERLINEAR ANNOTATION ANCHOR|2SEPARATOR|2TERMINATOR",
  "0INTERLOCKED FEMALE AND MALE SIGN|0INTERROBANG|0INTERSECTION|1ABOVE BAR ABOVE UNION|2UNION",
  "1BESIDE AND JOINED WITH INTERSECTION|1WITH DOT|2LOGICAL AND|2OVERBAR|0INVERSE BULLET",
  "1CHECK MARK|1CHECKER BOARD FILL|1DOWNWARDS ARROW WITH TIP LEFTWARDS|1MEDIUM SHADE|1WHITE CIRCLE",
  "0INVERTED EXCLAMATION MARK|1INTERROBANG|1LAZY S|1LOW KAVYKA|3WITH KAVYKA ABOVE|1OHM SIGN",
  "1PENTAGRAM|1QUESTION MARK|1UNDERTIE|0INVISIBLE PLUS|1SEPARATOR|1TIMES|0IZAKAYA LANTERN",
  "0JACK-O-LANTERN|0JAPANESE BANK SYMBOL|1CASTLE|1DOLLS|1GOBLIN|1INDUSTRIAL STANDARD SYMBOL|1OGRE",
  "1POST OFFICE|1SYMBOL FOR BEGINNER|0JAR|0JAVANESE CONSONANT SIGN CAKRA|3KERET|3PENGKAL",
  "1DIGIT EIGHT|2FIVE|2FOUR|2NINE|2ONE|2SEVEN|2SIX|2THREE|2TWO|2ZERO|1LEFT RERENGGAN|1LETTER A|2AI",
  "2BA|3MURDA|2CA|3MURDA|2DA|3MAHAPRANA|2DDA|3MAHAPRANA|2E|2GA|3MURDA|2HA|2I|3KAWI|2II|2JA",
  "3MAHAPRANA|2KA|3MURDA|3SASAK|2LA|2MA|2NA|3MURDA|2NGA|3LELET|4RASWADI|2NYA|3MURDA|2O|2PA|3CEREK",
  "3MURDA|2RA|3AGUNG|2SA|3MAHAPRANA|3MURDA|2TA|3MURDA|2TTA|3MAHAPRANA|2U|2WA|2YA|1PADA ADEG|3ADEG",
  "2ANDAP|2ISEN-ISEN|2LINGSA|2LUHUR|2LUNGSI|2MADYA|2PANGKAT|2PISELEH|2TIRTA TUMETES|2WINDU",
  "1PANGKON|1PANGRANGKEP|1RIGHT RERENGGAN|1SIGN CECAK|3TELU|2LAYAR|2PANYANGGA|2WIGNYAN",
  "1TURNED PADA PISELEH|1VOWEL SIGN DIRGA MURE|3PEPET|3SUKU|4MENDUT|3TALING|3TARUNG|3TOLONG|3WULU",
  "4MELIK|0JEANS|0JIGSAW PUZZLE PIECE|0JOIN|0JOYSTICK|0JUGGLING|0JUNO|0JUPITER|0KAABA",
  "0KAITHI ABBREVIATION SIGN|1DANDA|1DOUBLE DANDA|2SECTION MARK|1ENUMERATION SIGN|1LETTER A|2AA",
  "2AI|2AU|2BA|2BHA|2CA|2CHA|2DA|2DDA|2DDDHA|2DDHA|2DHA|2E|2GA|2GHA|2HA|2I|2II|2JA|2JHA|2KA|2KHA",
  "2LA|2MA|2NA|2NGA|2NNA|2NYA|2O|2PA|2PHA|2RA|2RHA|2SA|2SHA|2SSA|2TA|2THA|2TTA|2TTHA|2U|2UU|2VA",
  "2YA|1NUMBER SIGN|3ABOVE|1SECTION MARK|1SIGN ANUSVARA|2CANDRABINDU|2NUKTA|2VIRAMA|2VISARGA",
  "1VOWEL SIGN AA|3AI|3AU|3E|3I|3II|3O|3U|3UU|3VOCALIC R|0KANGAROO|0KANGXI RADICAL AGAIN|2AND",
  "2ARRIVE|2ARROW|2AXE|2BADGER|2BAMBOO|2BEAN|2BIG|2BIRD|2BITTER|2BLACK|2BLOOD|2BLUE|2BOAT|2BODY",
  "2BOLT OF CLOTH|2BONE|2BOW|2BRANCH|2BRISTLE|2BRUSH|2CART|2CAULDRON|2CAVE|2CHILD|2CITY|2CLAN",
  "2CLAW|2CLIFF|2CLOTHES|2COLOR|2COMPARE|2CORPSE|2COVER|2COW|2DEATH|2DEER|2DIPPER|2DISH",
  "2DISTINGUISH|2DIVINATION|2DO NOT|2DOG|2DOOR|2DOT|2DOTTED CLIFF|3TENT|2DOUBLE X|2DOWN BOX",
  "2DRAGON|2DRUM|2DRY|2EAR|2EARTH|2EAT|2EIGHT|2EMBROIDERY|2ENCLOSURE|2ENTER|2EVEN|2EVENING|2EYE",
  "2FACE|2FANG|2FATHER|2FEATHER|2FIELD|2FIGHT|2FIRE|2FISH|2FLUTE|2FLY|2FOOT|2FRAGRANT|2FROG|2FUR",
  "2GATE|2GHOST|2GO|3SLOWLY|2GOLD|2GRAIN|2GRASS|2HAIR|2HALBERD|2HALF TREE TRUNK|2HAND|2HEAD|2HEART",
  "2HEMP|2HIDING ENCLOSURE|2HOOK|2HORN|2HORSE|2ICE|2INCH|2INSECT|2JADE|2JAR|2KNIFE|2LACK|2LAME",
  "2LEAF|2LEATHER|2LEEK|2LEGS|2LID|2LIFE|2LINE|2LONG|3STRIDE|2MAN|2MEAT|2MELON|2MILLET|2MINISTER",
  "2MOON|2MORNING|2MORTAR|2MOUND|2MOUNTAIN|2MOUTH|2NET|2NOSE|2NOT|2OLD|2ONE|2ONESELF|2OPEN BOX",
  "2OPPOSE|2PIG|2PLOW|2POWER|2PRIVATE|2PROFOUND|2RAIN|2RAP|2RAT|2RED|2RICE|2RIGHT OPEN BOX|2RIVER",
  "2ROOF|2RUN|2SACRIFICIAL WINE|2SALT|2SAY|2SCHOLAR|2SCRIPT|2SEAL|2SECOND|2SEE|2SELF|2SHEEP|2SHELL",
  "2SHOOT|2SHORT TAILED BIRD|3THREAD|2SICKNESS|2SILK|2SKIN|2SLASH|2SLAVE|2SLICE|2SMALL|2SNOUT",
  "2SOUND|2SPEAR|2SPEECH|2SPIRIT|2SPOON|2SPROUT|2SQUARE|2STAND|2STEAM|2STEP|2STONE|2STOP|2STOPPING",
  "2SUN|2SWEET|2TABLE|2TALL|2TANNED LEATHER|2TEN|2TIGER|2TILE|2TONGUE|2TOOTH|2TRACK|2TREE|2TRIPOD",
  "2TURBAN|2TURTLE|2TWO|3HANDS|2USE|2VALLEY|2VILLAGE|2WALK|3ENCLOSURE|2WATER|2WEAPON|2WEST|2WHEAT",
  "2WHITE|2WIND|2WINE|2WOMAN|2WORK|2WRAP|2WRONG|2YELLOW|0KANNADA AI LENGTH MARK|1DIGIT EIGHT|2FIVE",
  "2FOUR|2NINE|2ONE|2SEVEN|2SIX|2THREE|2TWO|2ZERO|1LENGTH MARK|1LETTER A|2AA|2AI|2AU|2BA|2BHA|2CA",
  "2CHA|2DA|2DDA|2DDHA|2DHA|2E|2EE|2FA|2GA|2GHA|2HA|2I|2II|2JA|2JHA|2KA|2KHA|2LA|2LLA|2LLLA|2MA",
  "2NA|2NAKAARA POLLU|2NGA|2NNA|2NYA|2O|2OO|2PA|2PHA|2RA|2RRA|2SA|2SHA|2SSA|2TA|2THA|2TTA|2TTHA|2U",
  "2UU|2VA|2VOCALIC L|3LL|3R|3RR|2YA|1SIGN ANUSVARA|2AVAGRAHA|2CANDRABINDU|2JIHVAMULIYA|2NUKTA",
  "2SIDDHAM|2SPACING CANDRABINDU|2UPADHMANIYA|2VIRAMA|2VISARGA|1VOWEL SIGN AA|3AI|3AU|3E|3EE|3I",
  "3II|3O|3OO|3U|3UU|3VOCALIC L|4LL|4R|4RR|0KATAKANA DIGRAPH KOTO|1ITERATION MARK|1LETTER A",
  "2ARCHAIC E|3WU|3YE|3YI|2BA|2BE|2BI|2BO|2BU|2DA|2DE|2DI|2DO|2DU|2E|2GA|2GE|2GI|2GO|2GU|2HA|2HE",
  "2HI|2HO|2HU|2I|2KA|2KE|2KI|2KO|2KU|2MA|2ME|2MI|2MINNAN NASALIZED TONE-1|4TONE-2|4TONE-3|4TONE-4",
  "4TONE-5|4TONE-7|4TONE-8|3TONE-2|3TONE-3|3TONE-4|3TONE-5|3TONE-7|3TONE-8|2MO|2MU|2N|2NA|2NE|2NI",
  "2NO|2NU|2O|2PA|2PE|2PI|2PO|2PU|2RA|2RE|2RI|2RO|2RU|2SA|2SE|2SI|2SMALL A|3E|3HA|3HE|3HI|3HO|3HU",
  "3I|3KA|3KE|3KU|3MU|3N|3NU|3O|3RA|3RE|3RI|3RO|3RU|3SI|3SU|3TO|3TU|3U|3WA|3WE|3WI|3WO|3YA|3YO|3YU",
  "2SO|2SU|2TA|2TE|2TI|2TO|2TU|2U|2VA|2VE|2VI|2VO|2VU|2WA|2WE|2WI|2WO|2YA|2YO|2YU|2ZA|2ZE|2ZI|2ZO",
  "2ZU|1MIDDLE DOT|1VOICED ITERATION MARK|0KATAKANA-HIRAGANA DOUBLE HYPHEN|1PROLONGED SOUND MARK",
  "1SEMI-VOICED SOUND MARK|1VOICED SOUND MARK|0KAYAH LI DIGIT EIGHT|3FIVE|3FOUR|3NINE|3ONE|3SEVEN",
  "3SIX|3THREE|3TWO|3ZERO|2LETTER A|3BA|3CA|3DA|3GA|3HA|3HTA|3I|3KA|3KHA|3LA|3MA|3NA|3NGA|3NYA|3OE",
  "3OO|3PA|3PHA|3RA|3SA|3SHA|3TA|3THA|3VA|3WA|3YA|3ZA|2SIGN CWI|3SHYA|2TONE CALYA|4PLOPHU|3PLOPHU",
  "2VOWEL E|3EE|3O|3U|3UE|0KELVIN SIGN|0KEY|0KEYBOARD|1AND MOUSE|0KEYCAP TEN",
  "0KHAROSHTHI DIGIT FOUR|2ONE|2THREE|2TWO|1FRACTION ONE HALF|1LETTER A|2BA|2BHA|2CA|2CHA|2DA|2DDA",
  "2DDHA|2DHA|2GA|2GHA|2HA|2JA|2KA|2KHA|2KKA|2LA|2MA|2NA|2NNA|2NYA|2PA|2PHA|2RA|2SA|2SHA|2SSA|2TA",
  "2THA|2TTA|2TTHA|2TTTA|2TTTHA|2VA|2VHA|2YA|2ZA|1NUMBER ONE HUNDRED|3THOUSAND|2TEN|2TWENTY",
  "1PUNCTUATION CIRCLE|2CRESCENT BAR|2DANDA|2DOT|2DOUBLE DANDA|2LINES|2LOTUS|2MANGALAM",
  "2SMALL CIRCLE|1SIGN ANUSVARA|2BAR ABOVE|2CAUDA|2DOT BELOW|2DOUBLE RING BELOW|2VISARGA|1VIRAMA",
  "1VOWEL LENGTH MARK|2SIGN E|3I|3O|3U|3VOCALIC R|0KHITAN SMALL SCRIPT CHARACTER-18B00",
  "3CHARACTER-18B01|3CHARACTER-18B02|3CHARACTER-18B03|3CHARACTER-18B04|3CHARACTER-18B05",
  "3CHARACTER-18B06|3CHARACTER-18B07|3CHARACTER-18B08|3CHARACTER-18B09|3CHARACTER-18B0A",
  "3CHARACTER-18B0B|3CHARACTER-18B0C|3CHARACTER-18B0D|3CHARACTER-18B0E|3CHARACTER-18B0F",
  "3CHARACTER-18B10|3CHARACTER-18B11|3CHARACTER-18B12|3CHARACTER-18B13|3CHARACTER-18B14",
  "3CHARACTER-18B15|3CHARACTER-18B16|3CHARACTER-18B17|3CHARACTER-18B18|3CHARACTER-18B19",
  "3CHARACTER-18B1A|3CHARACTER-18B1B|3CHARACTER-18B1C|3CHARACTER-18B1D|3CHARACTER-18B1E",
  "3CHARACTER-18B1F|3CHARACTER-18B20|3CHARACTER-18B21|3CHARACTER-18B22|3CHARACTER-18B23",
  "3CHARACTER-18B24|3CHARACTER-18B25|3CHARACTER-18B26|3CHARACTER-18B27|3CHARACTER-18B28",
  "3CHARACTER-18B29|3CHARACTER-18B2A|3CHARACTER-18B2B|3CHARACTER-18B2C|3CHARACTER-18B2D",
  "3CHARACTER-18B2E|3CHARACTER-18B2F|3CHARACTER-18B30|3CHARACTER-18B31|3CHARACTER-18B32",
  "3CHARACTER-18B33|3CHARACTER-18B34|3CHARACTER-18B35|3CHARACTER-18B36|3CHARACTER-18B37",
  "3CHARACTER-18B38|3CHARACTER-18B39|3CHARACTER-18B3A|3CHARACTER-18B3B|3CHARACTER-18B3C",
  "3CHARACTER-18B3D|3CHARACTER-18B3E|3CHARACTER-18B3F|3CHARACTER-18B40|3CHARACTER-18B41",
  "3CHARACTER-18B42|3CHARACTER-18B43|3CHARACTER-18B44|3CHARACTER-18B45|3CHARACTER-18B46",
  "3CHARACTER-18B47|3CHARACTER-18B48|3CHARACTER-18B49|3CHARACTER-18B4A|3CHARACTER-18B4B",
  "3CHARACTER-18B4C|3CHARACTER-18B4D|3CHARACTER-18B4E|3CHARACTER-18B4F|3CHARACTER-18B50",
  "3CHARACTER-18B51|3CHARACTER-18B52|3CHARACTER-18B53|3CHARACTER-18B54|3CHARACTER-18B55",
  "3CHARACTER-18B56|3CHARACTER-18B57|3CHARACTER-18B58|3CHARACTER-18B59|3CHARACTER-18B5A",
  "3CHARACTER-18B5B|3CHARACTER-18B5C|3CHARACTER-18B5D|3CHARACTER-18B5E|3CHARACTER-18B5F",
  "3CHARACTER-18B60|3CHARACTER-18B61|3CHARACTER-18B62|3CHARACTER-18B63|3CHARACTER-18B64",
  "3CHARACTER-18B65|3CHARACTER-18B66|3CHARACTER-18B67|3CHARACTER-18B68|3CHARACTER-18B69",
  "3CHARACTER-18B6A|3CHARACTER-18B6B|3CHARACTER-18B6C|3CHARACTER-18B6D|3CHARACTER-18B6E",
  "3CHARACTER-18B6F|3CHARACTER-18B70|3CHARACTER-18B71|3CHARACTER-18B72|3CHARACTER-18B73",
  "3CHARACTER-18B74|3CHARACTER-18B75|3CHARACTER-18B76|3CHARACTER-18B77|3CHARACTER-18B78",
  "3CHARACTER-18B79|3CHARACTER-18B7A|3CHARACTER-18B7B|3CHARACTER-18B7C|3CHARACTER-18B7D",
  "3CHARACTER-18B7E|3CHARACTER-18B7F|3CHARACTER-18B80|3CHARACTER-18B81|3CHARACTER-18B82",
  "3CHARACTER-18B83|3CHARACTER-18B84|3CHARACTER-18B85|3CHARACTER-18B86|3CHARACTER-18B87",
  "3CHARACTER-18B88|3CHARACTER-18B89|3CHARACTER-18B8A|3CHARACTER-18B8B|3CHARACTER-18B8C",
  "3CHARACTER-18B8D|3CHARACTER-18B8E|3CHARACTER-18B8F|3CHARACTER-18B90|3CHARACTER-18B91",
  "3CHARACTER-18B92|3CHARACTER-18B93|3CHARACTER-18B94|3CHARACTER-18B95|3CHARACTER-18B96",
  "3CHARACTER-18B97|3CHARACTER-18B98|3CHARACTER-18B99|3CHARACTER-18B9A|3CHARACTER-18B9B",
  "3CHARACTER-18B9C|3CHARACTER-18B9D|3CHARACTER-18B9E|3CHARACTER-18B9F|3CHARACTER-18BA0",
  "3CHARACTER-18BA1|3CHARACTER-18BA2|3CHARACTER-18BA3|3CHARACTER-18BA4|3CHARACTER-18BA5",
  "3CHARACTER-18BA6|3CHARACTER-18BA7|3CHARACTER-18BA8|3CHARACTER-18BA9|3CHARACTER-18BAA",
  "3CHARACTER-18BAB|3CHARACTER-18BAC|3CHARACTER-18BAD|3CHARACTER-18BAE|3CHARACTER-18BAF",
  "3CHARACTER-18BB0|3CHARACTER-18BB1|3CHARACTER-18BB2|3CHARACTER-18BB3|3CHARACTER-18BB4",
  "3CHARACTER-18BB5|3CHARACTER-18BB6|3CHARACTER-18BB7|3CHARACTER-18BB8|3CHARACTER-18BB9",
  "3CHARACTER-18BBA|3CHARACTER-18BBB|3CHARACTER-18BBC|3CHARACTER-18BBD|3CHARACTER-18BBE",
  "3CHARACTER-18BBF|3CHARACTER-18BC0|3CHARACTER-18BC1|3CHARACTER-18BC2|3CHARACTER-18BC3",
  "3CHARACTER-18BC4|3CHARACTER-18BC5|3CHARACTER-18BC6|3CHARACTER-18BC7|3CHARACTER-18BC8",
  "3CHARACTER-18BC9|3CHARACTER-18BCA|3CHARACTER-18BCB|3CHARACTER-18BCC|3CHARACTER-18BCD",
  "3CHARACTER-18BCE|3CHARACTER-18BCF|3CHARACTER-18BD0|3CHARACTER-18BD1|3CHARACTER-18BD2",
  "3CHARACTER-18BD3|3CHARACTER-18BD4|3CHARACTER-18BD5|3CHARACTER-18BD6|3CHARACTER-18BD7",
  "3CHARACTER-18BD8|3CHARACTER-18BD9|3CHARACTER-18BDA|3CHARACTER-18BDB|3CHARACTER-18BDC",
  "3CHARACTER-18BDD|3CHARACTER-18BDE|3CHARACTER-18BDF|3CHARACTER-18BE0|3CHARACTER-18BE1",
  "3CHARACTER-18BE2|3CHARACTER-18BE3|3CHARACTER-18BE4|3CHARACTER-18BE5|3CHARACTER-18BE6",
  "3CHARACTER-18BE7|3CHARACTER-18BE8|3CHARACTER-18BE9|3CHARACTER-18BEA|3CHARACTER-18BEB",
  "3CHARACTER-18BEC|3CHARACTER-18BED|3CHARACTER-18BEE|3CHARACTER-18BEF|3CHARACTER-18BF0",
  "3CHARACTER-18BF1|3CHARACTER-18BF2|3CHARACTER-18BF3|3CHARACTER-18BF4|3CHARACTER-18BF5",
  "3CHARACTER-18BF6|3CHARACTER-18BF7|3CHARACTER-18BF8|3CHARACTER-18BF9|3CHARACTER-18BFA",
  "3CHARACTER-18BFB|3CHARACTER-18BFC|3CHARACTER-18BFD|3CHARACTER-18BFE|3CHARACTER-18BFF",
  "3CHARACTER-18C00|3CHARACTER-18C01|3CHARACTER-18C02|3CHARACTER-18C03|3CHARACTER-18C04",
  "3CHARACTER-18C05|3CHARACTER-18C06|3CHARACTER-18C07|3CHARACTER-18C08|3CHARACTER-18C09",
  "3CHARACTER-18C0A|3CHARACTER-18C0B|3CHARACTER-18C0C|3CHARACTER-18C0D|3CHARACTER-18C0E",
  "3CHARACTER-18C0F|3CHARACTER-18C10|3CHARACTER-18C11|3CHARACTER-18C12|3CHARACTER-18C13",
  "3CHARACTER-18C14|3CHARACTER-18C15|3CHARACTER-18C16|3CHARACTER-18C17|3CHARACTER-18C18",
  "3CHARACTER-18C19|3CHARACTER-18C1A|3CHARACTER-18C1B|3CHARACTER-18C1C|3CHARACTER-18C1D",
  "3CHARACTER-18C1E|3CHARACTER-18C1F|3CHARACTER-18C20|3CHARACTER-18C21|3CHARACTER-18C22",
  "3CHARACTER-18C23|3CHARACTER-18C24|3CHARACTER-18C25|3CHARACTER-18C26|3CHARACTER-18C27",
  "3CHARACTER-18C28|3CHARACTER-18C29|3CHARACTER-18C2A|3CHARACTER-18C2B|3CHARACTER-18C2C",
  "3CHARACTER-18C2D|3CHARACTER-18C2E|3CHARACTER-18C2F|3CHARACTER-18C30|3CHARACTER-18C31",
  "3CHARACTER-18C32|3CHARACTER-18C33|3CHARACTER-18C34|3CHARACTER-18C35|3CHARACTER-18C36",
  "3CHARACTER-18C37|3CHARACTER-18C38|3CHARACTER-18C39|3CHARACTER-18C3A|3CHARACTER-18C3B",
  "3CHARACTER-18C3C|3CHARACTER-18C3D|3CHARACTER-18C3E|3CHARACTER-18C3F|3CHARACTER-18C40",
  "3CHARACTER-18C41|3CHARACTER-18C42|3CHARACTER-18C43|3CHARACTER-18C44|3CHARACTER-18C45",
  "3CHARACTER-18C46|3CHARACTER-18C47|3CHARACTER-18C48|3CHARACTER-18C49|3CHARACTER-18C4A",
  "3CHARACTER-18C4B|3CHARACTER-18C4C|3CHARACTER-18C4D|3CHARACTER-18C4E|3CHARACTER-18C4F",
  "3CHARACTER-18C50|3CHARACTER-18C51|3CHARACTER-18C52|3CHARACTER-18C53|3CHARACTER-18C54",
  "3CHARACTER-18C55|3CHARACTER-18C56|3CHARACTER-18C57|3CHARACTER-18C58|3CHARACTER-18C59",
  "3CHARACTER-18C5A|3CHARACTER-18C5B|3CHARACTER-18C5C|3CHARACTER-18C5D|3CHARACTER-18C5E",
  "3CHARACTER-18C5F|3CHARACTER-18C60|3CHARACTER-18C61|3CHARACTER-18C62|3CHARACTER-18C63",
  "3CHARACTER-18C64|3CHARACTER-18C65|3CHARACTER-18C66|3CHARACTER-18C67|3CHARACTER-18C68",
  "3CHARACTER-18C69|3CHARACTER-18C6A|3CHARACTER-18C6B|3CHARACTER-18C6C|3CHARACTER-18C6D",
  "3CHARACTER-18C6E|3CHARACTER-18C6F|3CHARACTER-18C70|3CHARACTER-18C71|3CHARACTER-18C72",
  "3CHARACTER-18C73|3CHARACTER-18C74|3CHARACTER-18C75|3CHARACTER-18C76|3CHARACTER-18C77",
  "3CHARACTER-18C78|3CHARACTER-18C79|3CHARACTER-18C7A|3CHARACTER-18C7B|3CHARACTER-18C7C",
  "3CHARACTER-18C7D|3CHARACTER-18C7E|3CHARACTER-18C7F|3CHARACTER-18C80|3CHARACTER-18C81",
  "3CHARACTER-18C82|3CHARACTER-18C83|3CHARACTER-18C84|3CHARACTER-18C85|3CHARACTER-18C86",
  "3CHARACTER-18C87|3CHARACTER-18C88|3CHARACTER-18C89|3CHARACTER-18C8A|3CHARACTER-18C8B",
  "3CHARACTER-18C8C|3CHARACTER-18C8D|3CHARACTER-18C8E|3CHARACTER-18C8F|3CHARACTER-18C90",
  "3CHARACTER-18C91|3CHARACTER-18C92|3CHARACTER-18C93|3CHARACTER-18C94|3CHARACTER-18C95",
  "3CHARACTER-18C96|3CHARACTER-18C97|3CHARACTER-18C98|3CHARACTER-18C99|3CHARACTER-18C9A",
  "3CHARACTER-18C9B|3CHARACTER-18C9C|3CHARACTER-18C9D|3CHARACTER-18C9E|3CHARACTER-18C9F",
  "3CHARACTER-18CA0|3CHARACTER-18CA1|3CHARACTER-18CA2|3CHARACTER-18CA3|3CHARACTER-18CA4",
  "3CHARACTER-18CA5|3CHARACTER-18CA6|3CHARACTER-18CA7|3CHARACTER-18CA8|3CHARACTER-18CA9",
  "3CHARACTER-18CAA|3CHARACTER-18CAB|3CHARACTER-18CAC|3CHARACTER-18CAD|3CHARACTER-18CAE",
  "3CHARACTER-18CAF|3CHARACTER-18CB0|3CHARACTER-18CB1|3CHARACTER-18CB2|3CHARACTER-18CB3",
  "3CHARACTER-18CB4|3CHARACTER-18CB5|3CHARACTER-18CB6|3CHARACTER-18CB7|3CHARACTER-18CB8",
  "3CHARACTER-18CB9|3CHARACTER-18CBA|3CHARACTER-18CBB|3CHARACTER-18CBC|3CHARACTER-18CBD",
  "3CHARACTER-18CBE|3CHARACTER-18CBF|3CHARACTER-18CC0|3CHARACTER-18CC1|3CHARACTER-18CC2",
  "3CHARACTER-18CC3|3CHARACTER-18CC4|3CHARACTER-18CC5|3CHARACTER-18CC6|3CHARACTER-18CC7",
  "3CHARACTER-18CC8|3CHARACTER-18CC9|3CHARACTER-18CCA|3CHARACTER-18CCB|3CHARACTER-18CCC",
  "3CHARACTER-18CCD|3CHARACTER-18CCE|3CHARACTER-18CCF|3CHARACTER-18CD0|3CHARACTER-18CD1",
  "3CHARACTER-18CD2|3CHARACTER-18CD3|3CHARACTER-18CD4|3CHARACTER-18CD5|3FILLER",
  "0KHMER CURRENCY SYMBOL RIEL|1DIGIT EIGHT|2FIVE|2FOUR|2NINE|2ONE|2SEVEN|2SIX|2THREE|2TWO|2ZERO",
  "1INDEPENDENT VOWEL LY|3LYY|3QAA|3QAI|3QAQ|3QAU|3QE|3QI|3QII|3QOO TYPE ONE|5TWO|3QU|3QUK|3QUU",
  "3QUUV|3RY|3RYY|1LETTER BA|2CA|2CHA|2CHO|2CO|2DA|2DO|2HA|2KA|2KHA|2KHO|2KO|2LA|2LO|2MO|2NGO|2NNO",
  "2NO|2NYO|2PHA|2PHO|2PO|2QA|2RO|2SA|2SHA|2SSO|2TA|2THA|2THO|2TO|2TTHA|2TTHO|2VO|2YO|1SIGN AHSDA",
  "2ATTHACAN|2AVAKRAHASANYA|2BANTOC|2BARIYOOSAN|2BATHAMASAT|2BEYYAL|2CAMNUC PII KUUH|2COENG",
  "2KAKABAT|2KHAN|2KOOMUUT|2LEK TOO|2MUUSIKATOAN|2NIKAHIT|2PHNAEK MUAN|2REAHMUK|2ROBAT",
  "2SAMYOK SANNYA|2TOANDAKHIAT|2TRIISAP|2VIRIAM|2YUUKALEAPINTU|1SYMBOL BEI KOET|3ROC|2BUON KOET",
  "3ROC|2DAP KOET|3ROC|2DAP-BEI KOET|3ROC|2DAP-BUON KOET|3ROC|2DAP-MUOY KOET|3ROC|2DAP-PII KOET",
  "3ROC|2DAP-PRAM KOET|3ROC|2LEK ATTAK BEI|4BUON|4MUOY|4PII|4PRAM|4PRAM-BEI|4PRAM-BUON|4PRAM-MUOY",
  "4PRAM-PII|4SON|2MUOY KOET|3ROC|2PATHAMASAT|2PII KOET|3ROC|2PRAM KOET|3ROC|2PRAM-BEI KOET|3ROC",
  "2PRAM-BUON KOET|3ROC|2PRAM-MUOY KOET|3ROC|2PRAM-PII KOET|3ROC|2TUTEYASAT|1VOWEL INHERENT AA|3AQ",
  "2SIGN AA|3AE|3AI|3AU|3E|3I|3IE|3II|3OE|3OO|3U|3UA|3UU|3Y|3YA|3YY|0KHOJKI ABBREVIATION SIGN",
  "1DANDA|1DOUBLE DANDA|2SECTION MARK|1LETTER A|2AA|2AI|2AU|2BA|2BBA|2BHA|2CA|2CHA|2DA|2DDA|2DDDA",
  "2DDHA|2DHA|2E|2GA|2GGA|2GHA|2HA|2I|2JA|2JJA|2KA|2KHA|2LA|2LLA|2MA|2NA|2NGA|2NNA|2NYA|2O|2PA",
  "2PHA|2RA|2SA|2TA|2THA|2TTA|2TTHA|2U|2VA|2YA|1SECTION MARK|1SIGN ANUSVARA|2NUKTA|2SHADDA|2SUKUN",
  "2VIRAMA|1VOWEL SIGN AA|3AI|3AU|3E|3I|3II|3O|3U|1WORD SEPARATOR|0KHUDAWADI DIGIT EIGHT|2FIVE",
  "2FOUR|2NINE|2ONE|2SEVEN|2SIX|2THREE|2TWO|2ZERO|1LETTER A|2AA|2AI|2AU|2BA|2BBA|2BHA|2CA|2CHA|2DA",
  "2DDA|2DDDA|2DDHA|2DHA|2E|2GA|2GGA|2GHA|2HA|2I|2II|2JA|2JHA|2JJA|2KA|2KHA|2LA|2MA|2NA|2NGA|2NNA",
  "2NYA|2O|2PA|2PHA|2RA|2RRA|2SA|2SHA|2TA|2THA|2TTA|2TTHA|2U|2UU|2VA|2YA|1SIGN ANUSVARA|2NUKTA",
  "2VIRAMA|1VOWEL SIGN AA|3AI|3AU|3E|3I|3II|3O|3U|3UU|0KIMONO|0KIP SIGN|0KISS|1MARK",
  "0KISSING CAT FACE WITH CLOSED EYES|1FACE|2WITH CLOSED EYES|3SMILING EYES|0KITE|0KIWIFRUIT",
  "0KNEELING PERSON|0KNOT|0KOALA|0KOREAN STANDARD SYMBOL|0KRONOS|0L B BAR SYMBOL|0LAB COAT|0LABEL",
  "0LACROSSE STICK AND BALL|0LADDER|0LADY BEETLE|0LANGUAGE TAG|0LAO CANCELLATION MARK|1DIGIT EIGHT",
  "2FIVE|2FOUR|2NINE|2ONE|2SEVEN|2SIX|2THREE|2TWO|2ZERO|1ELLIPSIS|1HO MO|2NO|1KO LA|1LETTER BO|2CO",
  "2DO|2FO FAY|3FON|3SUNG|3TAM|2HO SUNG|3TAM|2KHMU GO|3NYO|2KHO SUNG|3TAM|2KO|2LO|3LING|3LOOT|2MO",
  "2NGO|2NO|2NYO|2O|2PALI BHA|3CHA|3DDA|3DDHA|3DHA|3GHA|3JHA|3LLA|3NNA|3NYA|3TTA|3TTHA|2PHO SUNG",
  "3TAM|2PO|2RO|2SANSKRIT SHA|3SSA|2SO SUNG|3TAM|2THO SUNG|3TAM|2TO|2WO|2YO|1NIGGAHITA",
  "1SEMIVOWEL SIGN LO|3NYO|1SIGN PALI VIRAMA|1TONE MAI CATAWA|3EK|3THO|3TI|1VOWEL SIGN A|3AA|3AI",
  "3AM|3AY|3E|3EI|3I|3II|3MAI KAN|4KON|3O|3U|3UU|3Y|3YY|0LARGE BLUE CIRCLE|2DIAMOND|2SQUARE",
  "1BROWN CIRCLE|2SQUARE|1CIRCLE|1DOWN TACK|1GREEN CIRCLE|2SQUARE|1LEFT TRIANGLE OPERATOR",
  "1ONE DOT OVER TWO DOTS PUNCTUATION|2RING OVER TWO RINGS PUNCTUATION|1ORANGE CIRCLE|2DIAMOND",
  "2SQUARE|1PURPLE CIRCLE|2SQUARE|1RED CIRCLE|2SQUARE|1TRIPLE VERTICAL BAR OPERATOR",
  "1TWO DOTS OVER ONE DOT PUNCTUATION|2RINGS OVER ONE RING PUNCTUATION|1UP TACK|1YELLOW CIRCLE",
  "2SQUARE|0LARGER THAN|2OR EQUAL TO|0LARI SIGN|0LAST QUARTER MOON|3SYMBOL|3WITH FACE",
  "0LATIN CAPITAL LETTER A|4WITH ACUTE|5BREVE|6AND ACUTE|7DOT BELOW|7GRAVE|7HOOK ABOVE|7TILDE",
  "5CARON|5CIRCUMFLEX|6AND ACUTE|7DOT BELOW|7GRAVE|7HOOK ABOVE|7TILDE|5DIAERESIS|6AND MACRON",
  "5DOT ABOVE|7AND MACRON|6BELOW|5DOUBLE GRAVE|5GRAVE|5HOOK ABOVE|5INVERTED BREVE|5MACRON|5OGONEK",
  "5RING ABOVE|7AND ACUTE|6BELOW|5STROKE|5TILDE|3AA|3AE|4WITH ACUTE|5MACRON|3AFRICAN D|3ALPHA",
  "3ANGLICANA W|3AO|3AU|3AV|4WITH HORIZONTAL BAR|3AY|3B|4WITH DOT ABOVE|6BELOW|5FLOURISH|5HOOK",
  "5LINE BELOW|5STROKE|5TOPBAR|3BETA|3BROKEN L|3C|4WITH ACUTE|5BAR|5CARON|5CEDILLA|6AND ACUTE",
  "5CIRCUMFLEX|5DOT ABOVE|5HOOK|5PALATAL HOOK|5STROKE|3CHI|3CLOSED INSULAR G|3CON|3CUATRILLO",
  "4WITH COMMA|3D|4WITH CARON|5CEDILLA|5CIRCUMFLEX BELOW|5DOT ABOVE|6BELOW|5HOOK|5LINE BELOW",
  "5SHORT STROKE OVERLAY|5SMALL LETTER Z|8WITH CARON|5STROKE|5TOPBAR|3DZ|4WITH CARON|3E",
  "4WITH ACUTE|5BREVE|5CARON|5CEDILLA|6AND BREVE|5CIRCUMFLEX|6AND ACUTE|7DOT BELOW|7GRAVE",
  "7HOOK ABOVE|7TILDE|6BELOW|5DIAERESIS|5DOT ABOVE|6BELOW|5DOUBLE GRAVE|5GRAVE|5HOOK ABOVE",
  "5INVERTED BREVE|5MACRON|6AND ACUTE|7GRAVE|5OGONEK|5STROKE|5TILDE|6BELOW|3EGYPTOLOGICAL AIN",
  "4ALEF|3ENG|3ESH|3ET|3ETH|3EZH|4REVERSED|4WITH CARON|3F|4WITH DOT ABOVE|5HOOK|5STROKE|3G",
  "4WITH ACUTE|5BREVE|5CARON|5CEDILLA|5CIRCUMFLEX|5DOT ABOVE|5HOOK|5MACRON|5OBLIQUE STROKE|5STROKE",
  "3GAMMA|3GHA|3GLOTTAL A|4I|4STOP|4U|3H|4WITH BREVE BELOW|5CARON|5CEDILLA|5CIRCUMFLEX|5DESCENDER",
  "5DIAERESIS|5DOT ABOVE|6BELOW|5HOOK|5STROKE|3HALF H|3HENG|3HWAIR|3I|4WITH ACUTE|5BREVE|5CARON",
  "5CIRCUMFLEX|5DIAERESIS|6AND ACUTE|5DOT ABOVE|6BELOW|5DOUBLE GRAVE|5GRAVE|5HOOK ABOVE",
  "5INVERTED BREVE|5MACRON|5OGONEK|5STROKE|5TILDE|6BELOW|3INSULAR D|4F|4G|4R|4S|4T|3IOTA|3IS|3J",
  "4WITH CIRCUMFLEX|5CROSSED-TAIL|5STROKE|3K|4WITH ACUTE|5CARON|5CEDILLA|5DESCENDER",
  "5DIAGONAL STROKE|5DOT BELOW|5HOOK|5LINE BELOW|5OBLIQUE STROKE|5STROKE|6AND DIAGONAL STROKE|3L",
  "4WITH ACUTE|5BAR|5BELT|5CARON|5CEDILLA|5CIRCUMFLEX BELOW|5DOT BELOW|7AND MACRON|5DOUBLE BAR",
  "5HIGH STROKE|5LINE BELOW|5MIDDLE DOT|6TILDE|5SMALL LETTER J|5STROKE|3LJ|3M|4WITH ACUTE",
  "5DOT ABOVE|6BELOW|5HOOK|3MIDDLE SCOTS S|3MIDDLE-WELSH LL|4V|3N|4WITH ACUTE|5CARON|5CEDILLA",
  "5CIRCUMFLEX BELOW|5DESCENDER|5DOT ABOVE|6BELOW|5GRAVE|5LEFT HOOK|5LINE BELOW|5LONG RIGHT LEG",
  "5OBLIQUE STROKE|5SMALL LETTER J|5TILDE|3NJ|3O|4WITH ACUTE|5BREVE|5CARON|5CIRCUMFLEX|6AND ACUTE",
  "7DOT BELOW|7GRAVE|7HOOK ABOVE|7TILDE|5DIAERESIS|6AND MACRON|5DOT ABOVE|7AND MACRON|6BELOW",
  "5DOUBLE ACUTE|6GRAVE|5GRAVE|5HOOK ABOVE|5HORN|6AND ACUTE|7DOT BELOW|7GRAVE|7HOOK ABOVE|7TILDE",
  "5INVERTED BREVE|5LONG STROKE OVERLAY|5LOOP|5MACRON|6AND ACUTE|7GRAVE|5MIDDLE TILDE|5OGONEK",
  "6AND MACRON|5STROKE|6AND ACUTE|5TILDE|6AND ACUTE|7DIAERESIS|7MACRON|3OI|3OLD POLISH O|3OMEGA",
  "3OO|3OPEN E|4O|3OU|3P|4WITH ACUTE|5DOT ABOVE|5FLOURISH|5HOOK|5SQUIRREL TAIL|5STROKE",
  "6THROUGH DESCENDER|3Q|4WITH DIAGONAL STROKE|5STROKE THROUGH DESCENDER|3R|4ROTUNDA|4WITH ACUTE",
  "5CARON|5CEDILLA|5DOT ABOVE|6BELOW|7AND MACRON|5DOUBLE GRAVE|5INVERTED BREVE|5LINE BELOW",
  "5OBLIQUE STROKE|5STROKE|5TAIL|3REVERSED C WITH DOT|4E|4HALF H|4OPEN E|3RUM ROTUNDA|3S",
  "4WITH ACUTE|6AND DOT ABOVE|5CARON|6AND DOT ABOVE|5CEDILLA|5CIRCUMFLEX|5COMMA BELOW|5DOT ABOVE",
  "6BELOW|7AND DOT ABOVE|5HOOK|5OBLIQUE STROKE|5SHORT STROKE OVERLAY|5SWASH TAIL|3SALTILLO|3SCHWA",
  "3SCRIPT G|3SHARP S|3SIGMOID S|3SMALL CAPITAL I|4Q WITH HOOK TAIL|3T|4WITH CARON|5CEDILLA",
  "5CIRCUMFLEX BELOW|5COMMA BELOW|5DIAGONAL STROKE|5DOT ABOVE|6BELOW|5HOOK|5LINE BELOW",
  "5RETROFLEX HOOK|5STROKE|3THORN|4WITH STROKE|6THROUGH DESCENDER|3TONE FIVE|4SIX|4TWO|3TRESILLO",
  "3TURNED A|4ALPHA|4H|4INSULAR G|4K|4L|4M|4T|4V|3TZ|3U|4BAR|4WITH ACUTE|5BREVE|5CARON|5CIRCUMFLEX",
  "6BELOW|5DIAERESIS|6AND ACUTE|7CARON|7GRAVE|7MACRON|6BELOW|5DOT BELOW|5DOUBLE ACUTE|6GRAVE",
  "5GRAVE|5HOOK ABOVE|5HORN|6AND ACUTE|7DOT BELOW|7GRAVE|7HOOK ABOVE|7TILDE|5INVERTED BREVE",
  "5MACRON|6AND DIAERESIS|5OGONEK|5RING ABOVE|5STROKE|5TILDE|6AND ACUTE|6BELOW|3UPSILON|3V",
  "4WITH DIAGONAL STROKE|5DOT BELOW|5HOOK|5TILDE|3VEND|3VISIGOTHIC Z|3VOLAPUK AE|4OE|4UE|3VY|3W",
  "4WITH ACUTE|5CIRCUMFLEX|5DIAERESIS|5DOT ABOVE|6BELOW|5GRAVE|5HOOK|3WYNN|3X|4WITH DIAERESIS",
  "5DOT ABOVE|3Y|4WITH ACUTE|5CIRCUMFLEX|5DIAERESIS|5DOT ABOVE|6BELOW|5GRAVE|5HOOK|6ABOVE|5LOOP",
  "5MACRON|5STROKE|5TILDE|3YOGH|3Z|4WITH ACUTE|5CARON|5CIRCUMFLEX|5DESCENDER|5DOT ABOVE|6BELOW",
  "5HOOK|5LINE BELOW|5PALATAL HOOK|5STROKE|5SWASH TAIL|2LIGATURE IJ|3OE|1CROSS",
  "1EPIGRAPHIC LETTER ARCHAIC M|3I LONGA|3INVERTED M|3REVERSED F|4P|3SIDEWAYS I|1LETTER AIN",
  "2ALVEOLAR CLICK|2BIDENTAL PERCUSSIVE|2BILABIAL CLICK|3PERCUSSIVE|2DENTAL CLICK|2GLOTTAL STOP",
  "4WITH STROKE|2INVERTED GLOTTAL STOP|5WITH CURL|6STROKE|2LATERAL CLICK",
  "2PHARYNGEAL VOICED FRICATIVE|2RETROFLEX CLICK|4WITH RETROFLEX HOOK|2REVERSED ESH LOOP",
  "3GLOTTAL STOP WITH STROKE|2SINOLOGICAL DOT|2SMALL CAPITAL A|4AE|4B|4BARRED B|4C|4D|4E|4ETH|4EZH",
  "4F|4G|5WITH HOOK|4H|4I|4INVERTED R|4J|4K|4L|5WITH BELT|6STROKE|4M|4N|4O|4OE|4OPEN O|4OU|4P|4Q",
  "4R|5WITH RIGHT LEG|4REVERSED N|5R|4RUM|4S|4T|4TURNED E|5G|5K|5M|5R|4U|4V|4W|4Y|4Z|2STRETCHED C",
  "4WITH CURL|2TWO WITH STROKE|2VOICED LARYNGEAL SPIRANT|2WYNN|2YR",
  "1SMALL CAPITAL LETTER I WITH STROKE|4U WITH STROKE|2LETTER A|4REVERSED-SCHWA|4WITH ACUTE|5BREVE",
  "6AND ACUTE|7DOT BELOW|7GRAVE|7HOOK ABOVE|7TILDE|5CARON|5CIRCUMFLEX|6AND ACUTE|7DOT BELOW|7GRAVE",
  "7HOOK ABOVE|7TILDE|5DIAERESIS|6AND MACRON|5DOT ABOVE|7AND MACRON|6BELOW|5DOUBLE GRAVE|5GRAVE",
  "5HOOK ABOVE|5INVERTED BREVE|5MACRON|5OGONEK|5RETROFLEX HOOK|5RIGHT HALF RING|5RING ABOVE",
  "7AND ACUTE|6BELOW|5STROKE|5TILDE|3AA|3AE|4WITH ACUTE|5MACRON|3ALPHA|4WITH RETROFLEX HOOK",
  "3ANGLICANA W|3AO|3AU|3AV|4WITH HORIZONTAL BAR|3AY|3B|4WITH DOT ABOVE|6BELOW|5FLOURISH|5HOOK",
  "5LINE BELOW|5MIDDLE TILDE|5PALATAL HOOK|5STROKE|5TOPBAR|3BARRED ALPHA|4E|4O|3BASELINE ESH|3BETA",
  "3BLACKLETTER E|4O|5WITH STROKE|3BOTTOM HALF O|3BROKEN L|3C|4WITH ACUTE|5BAR|5CARON|5CEDILLA",
  "6AND ACUTE|5CIRCUMFLEX|5CURL|5DOT ABOVE|5HOOK|5PALATAL HOOK|5RETROFLEX HOOK|5STROKE|3CHI",
  "4WITH LOW LEFT SERIF|6RIGHT RING|3CLOSED INSULAR G|4OMEGA|4OPEN E|4REVERSED OPEN E|3CON",
  "3CUATRILLO|4WITH COMMA|3D|4WITH CARON|5CEDILLA|5CIRCUMFLEX BELOW|5CURL|5DOT ABOVE|6BELOW|5HOOK",
  "6AND TAIL|5LINE BELOW|5MIDDLE TILDE|5PALATAL HOOK|5SHORT STROKE OVERLAY|5STROKE|5TAIL|5TOPBAR",
  "3DB DIGRAPH|3DELTA|3DEZH DIGRAPH|5WITH PALATAL HOOK|6RETROFLEX HOOK|3DOTLESS I|4J|5WITH STROKE",
  "7AND HOOK|3DOUBLE R|5WITH CROSSED-TAIL|4THORN|4WYNN|3DUM|3DZ|4DIGRAPH|5WITH CURL",
  "6RETROFLEX HOOK|4WITH CARON|3E|4WITH ACUTE|5BREVE|5CARON|5CEDILLA|6AND BREVE|5CIRCUMFLEX",
  "6AND ACUTE|7DOT BELOW|7GRAVE|7HOOK ABOVE|7TILDE|6BELOW|5DIAERESIS|5DOT ABOVE|6BELOW",
  "5DOUBLE GRAVE|5FLOURISH|5GRAVE|5HOOK ABOVE|5INVERTED BREVE|5MACRON|6AND ACUTE|7GRAVE|5NOTCH",
  "5OGONEK|5RETROFLEX HOOK|5STROKE|5TILDE|6BELOW|3EGYPTOLOGICAL AIN|4ALEF|3ENG|4WITH CROSSED-TAIL",
  "5PALATAL HOOK|3ESH|4WITH CURL|5DOUBLE BAR|7AND CURL|5PALATAL HOOK|5RETROFLEX HOOK|3ET|3ETH|3EZH",
  "4REVERSED|4WITH CARON|5CURL|5PALATAL HOOK|5RETROFLEX HOOK|5TAIL|3F|4WITH DOT ABOVE|5HOOK",
  "5MIDDLE TILDE|5PALATAL HOOK|5STROKE|3FENG DIGRAPH|5WITH TRILL|3G|4WITH ACUTE|5BREVE|5CARON",
  "5CEDILLA|5CIRCUMFLEX|5DOT ABOVE|5HOOK|5MACRON|5OBLIQUE STROKE|5PALATAL HOOK|5STROKE|3GAMMA|3GHA",
  "3GLOTTAL A|4I|4STOP|4U|3H|4WITH BREVE BELOW|5CARON|5CEDILLA|5CIRCUMFLEX|5DESCENDER|5DIAERESIS",
  "5DOT ABOVE|6BELOW|5HOOK|5LINE BELOW|5PALATAL HOOK|5STROKE|3HALF H|3HENG|4WITH HOOK|3HV|3I",
  "4WITH ACUTE|5BREVE|5CARON|5CIRCUMFLEX|5DIAERESIS|6AND ACUTE|5DOT BELOW|5DOUBLE GRAVE|5GRAVE",
  "5HOOK ABOVE|5INVERTED BREVE|5MACRON|5OGONEK|5RETROFLEX HOOK|5STROKE|6AND RETROFLEX HOOK|5TILDE",
  "6BELOW|3INSULAR D|4F|4G|4R|4S|4T|3INVERTED ALPHA|4OE|3IOTA|4WITH STROKE|3IOTIFIED E|3IS|3J",
  "4WITH CARON|5CIRCUMFLEX|5CROSSED-TAIL|5STROKE|3K|4WITH ACUTE|5CARON|5CEDILLA|5DESCENDER",
  "5DIAGONAL STROKE|5DOT BELOW|5HOOK|5LINE BELOW|5OBLIQUE STROKE|5PALATAL HOOK|5STROKE",
  "6AND DIAGONAL STROKE|3KRA|3L|4WITH ACUTE|5BAR|5BELT|6AND PALATAL HOOK|5CARON|5CEDILLA",
  "5CIRCUMFLEX BELOW|5CURL|5DOT BELOW|7AND MACRON|5DOUBLE BAR|6MIDDLE TILDE|5FISHHOOK|5HIGH STROKE",
  "5INVERTED LAZY S|5LINE BELOW|5MIDDLE DOT|6RING|6TILDE|5PALATAL HOOK|5RETROFLEX HOOK|7AND BELT",
  "5STROKE|3LAMBDA WITH STROKE|3LENIS F|3LEZH|4WITH RETROFLEX HOOK|3LJ|3LONG S",
  "5WITH DIAGONAL STROKE|6DOT ABOVE|6HIGH STROKE|3LS DIGRAPH|3LUM|3LZ DIGRAPH|3M|4WITH ACUTE",
  "5CROSSED-TAIL|5DOT ABOVE|6BELOW|5HOOK|5MIDDLE TILDE|5PALATAL HOOK|3MIDDLE SCOTS S",
  "3MIDDLE-WELSH LL|4V|3MUM|3N|4PRECEDED BY APOSTROPHE|4WITH ACUTE|5CARON|5CEDILLA",
  "5CIRCUMFLEX BELOW|5CROSSED-TAIL|5CURL|5DESCENDER|5DOT ABOVE|6BELOW|5GRAVE|5LEFT HOOK",
  "5LINE BELOW|5LONG RIGHT LEG|5MIDDLE TILDE|5OBLIQUE STROKE|5PALATAL HOOK|5RETROFLEX HOOK|5TILDE",
  "3NJ|3NUM|3O|4WITH ACUTE|5BREVE|5CARON|5CIRCUMFLEX|6AND ACUTE|7DOT BELOW|7GRAVE|7HOOK ABOVE",
  "7TILDE|5DIAERESIS|6AND MACRON|5DOT ABOVE|7AND MACRON|6BELOW|5DOUBLE ACUTE|6GRAVE|5GRAVE",
  "5HOOK ABOVE|5HORN|6AND ACUTE|7DOT BELOW|7GRAVE|7HOOK ABOVE|7TILDE|5INVERTED BREVE",
  "5LONG STROKE OVERLAY|5LOOP|5LOW RING INSIDE|5MACRON|6AND ACUTE|7GRAVE|5OGONEK|6AND MACRON",
  "5RETROFLEX HOOK|5STROKE|6AND ACUTE|5TILDE|6AND ACUTE|7DIAERESIS|7MACRON|3OI|3OLD POLISH O",
  "3OMEGA|3OO|3OPEN E|5WITH RETROFLEX HOOK|4O|5WITH RETROFLEX HOOK|6STROKE|4OE|3OU|3P|4WITH ACUTE",
  "5DOT ABOVE|5FLOURISH|5HOOK|5MIDDLE TILDE|5PALATAL HOOK|5SQUIRREL TAIL|5STROKE",
  "6THROUGH DESCENDER|3PHI|3Q|4WITH DIAGONAL STROKE|5HOOK|6TAIL|5STROKE THROUGH DESCENDER",
  "3QP DIGRAPH|3R|4ROTUNDA|4WITH ACUTE|5CARON|5CEDILLA|5CROSSED-TAIL|5DOT ABOVE|6BELOW|7AND MACRON",
  "5DOUBLE GRAVE|5FISHHOOK|6AND MIDDLE TILDE|7PALATAL HOOK|5INVERTED BREVE|5LINE BELOW|5LONG LEG",
  "5MIDDLE TILDE|5OBLIQUE STROKE|5PALATAL HOOK|5STROKE|5TAIL|4WITHOUT HANDLE|3RAMS HORN",
  "3REVERSED C|5WITH DOT|4E|4ENG|4HALF H|4K|4OPEN E|6WITH HOOK|7RETROFLEX HOOK|4R WITH FISHHOOK",
  "4SCRIPT G|3RUM|4ROTUNDA|3S|4WITH ACUTE|6AND DOT ABOVE|5CARON|6AND DOT ABOVE|5CEDILLA",
  "5CIRCUMFLEX|5COMMA BELOW|5CURL|5DOT ABOVE|6BELOW|7AND DOT ABOVE|5HOOK|5MIDDLE TILDE",
  "5OBLIQUE STROKE|5PALATAL HOOK|5SHORT STROKE OVERLAY|5SWASH TAIL|3SAKHA YAT|3SALTILLO|3SCHWA",
  "4WITH HOOK|5RETROFLEX HOOK|3SCRIPT G|5WITH CROSSED-TAIL|4R|5WITH RING|3SHARP S",
  "3SIDEWAYS DIAERESIZED U|4O|5WITH STROKE|4OPEN O|4TURNED M|4U|3SIGMOID S|3SQUAT REVERSED ESH",
  "3STIRRUP R|3T|4WITH CARON|5CEDILLA|5CIRCUMFLEX BELOW|5COMMA BELOW|5CURL|5DIAERESIS",
  "5DIAGONAL STROKE|5DOT ABOVE|6BELOW|5HOOK|6AND RETROFLEX HOOK|5LINE BELOW|5MIDDLE TILDE",
  "5PALATAL HOOK|5RETROFLEX HOOK|5STROKE|3TAILLESS PHI|3TC DIGRAPH WITH CURL|3TESH DIGRAPH",
  "5WITH PALATAL HOOK|6RETROFLEX HOOK|3TH WITH STRIKETHROUGH|3THORN|4WITH STROKE",
  "6THROUGH DESCENDER|3TONE FIVE|4SIX|4TWO|3TOP HALF O|3TRESILLO|3TS DIGRAPH|5WITH RETROFLEX HOOK",
  "3TUM|3TURNED A|4AE|4ALPHA|4DELTA|4E|4G|4H|5WITH FISHHOOK|7AND TAIL|4I|4INSULAR G|4K|4L|4M",
  "5WITH LONG LEG|4O OPEN-O|6WITH STROKE|4OE|5WITH HORIZONTAL STROKE|6STROKE|4OPEN E|4R|5WITH HOOK",
  "6LONG LEG|8AND RETROFLEX HOOK|6MIDDLE TILDE|6PALATAL HOOK|6TAIL|4T|5WITH CURL|4UI|4V|4W|4Y",
  "5WITH BELT|3TZ|3U|4BAR|5WITH SHORT RIGHT LEG|4WITH ACUTE|5BREVE|5CARON|5CIRCUMFLEX|6BELOW",
  "5DIAERESIS|6AND ACUTE|7CARON|7GRAVE|7MACRON|6BELOW|5DOT BELOW|5DOUBLE ACUTE|6GRAVE|5GRAVE",
  "5HOOK ABOVE|5HORN|6AND ACUTE|7DOT BELOW|7GRAVE|7HOOK ABOVE|7TILDE|5INVERTED BREVE|5LEFT HOOK",
  "5MACRON|6AND DIAERESIS|5OGONEK|5RETROFLEX HOOK|5RING ABOVE|5SHORT RIGHT LEG|5STROKE|5TILDE",
  "6AND ACUTE|6BELOW|3UE|3UI|3UM|3UO|3UPSILON|4WITH STROKE|3V|4WITH CURL|5DIAGONAL STROKE",
  "5DOT BELOW|5HOOK|5PALATAL HOOK|5RIGHT HOOK|5TILDE|3VEND|3VISIGOTHIC Z|3VOLAPUK AE|4OE|4UE|3VY",
  "3W|4WITH ACUTE|5CIRCUMFLEX|5DIAERESIS|5DOT ABOVE|6BELOW|5GRAVE|5HOOK|5RING ABOVE|3X",
  "4WITH DIAERESIS|5DOT ABOVE|5LONG LEFT LEG|8AND LOW RIGHT RING|8WITH SERIF|5LOW RIGHT RING",
  "5PALATAL HOOK|3Y|4WITH ACUTE|5CIRCUMFLEX|5DIAERESIS|5DOT ABOVE|6BELOW|5GRAVE|5HOOK|6ABOVE|5LOOP",
  "5MACRON|5RING ABOVE|5SHORT RIGHT LEG|5STROKE|5TILDE|3YOGH|3Z|4WITH ACUTE|5CARON|5CIRCUMFLEX",
  "5CURL|5DESCENDER|5DOT ABOVE|6BELOW|5HOOK|5LINE BELOW|5MIDDLE TILDE|5PALATAL HOOK",
  "5RETROFLEX HOOK|5STROKE|5SWASH TAIL|2LIGATURE FF|3FFI|3FFL|3FI|3FL|3IJ|3LONG S T|3OE|3ST",
  "1SUBSCRIPT SMALL LETTER A|4E|4H|4I|4J|4K|4L|4M|4N|4O|4P|4R|4S|4SCHWA|4T|4U|4V|4X",
  "0LEAF FLUTTERING IN WIND|0LEAFY GREEN|0LEDGER",
  "0LEFT AND LOWER AND RIGHT TRIANGULAR THREE QUARTERS BLOCK|3ONE EIGHTH BLOCK",
  "2RIGHT DOUBLE TURNSTILE|3TACK|3TRIANGULAR HALF BLOCK",
  "2UPPER AND RIGHT TRIANGULAR THREE QUARTERS BLOCK|3ONE EIGHTH BLOCK|1ANGER BUBBLE|1ANGLE BRACKET",
  "3WITH DOT|1ARC LESS-THAN BRACKET|1ARROW WITH CIRCLED PLUS|3SMALL CIRCLE",
  "1BARB DOWN RIGHT BARB DOWN HARPOON|5UP HARPOON|2UP RIGHT BARB DOWN HARPOON|5UP HARPOON",
  "1BLACK LENTICULAR BRACKET|2TORTOISE SHELL BRACKET|1CEILING|1CLOSED ENTRY|1CORNER BRACKET",
  "1CURLY BRACKET|3LOWER HOOK|3MIDDLE PIECE|3UPPER HOOK|1DOTTED SUBSTITUTION BRACKET",
  "1DOUBLE ANGLE BRACKET|2PARENTHESIS|2QUOTATION MARK|2WIGGLY FENCE|1FISH TAIL|1FIVE EIGHTHS BLOCK",
  "1FLOOR|1HALF BLACK CIRCLE|3STAR|2BLOCK|2CIRCLE|3WITH DOT|4FOUR DOTS|4THREE DOTS|4TWO DOTS",
  "2FOLDER|2INVERSE MEDIUM SHADE AND RIGHT HALF BLOCK|2MEDIUM SHADE|2RUNNING MAN",
  "1HAND TELEPHONE RECEIVER|1LOW PARAPHRASE BRACKET|1LUGGAGE|1MULTIMAP",
  "1NORMAL FACTOR SEMIDIRECT PRODUCT|1ONE EIGHTH BLOCK|2QUARTER BLOCK|1OUTER JOIN|1PARENTHESIS",
  "2EXTENSION|2LOWER HOOK|2UPPER HOOK|1RAISED OMISSION BRACKET|1RIGHT ARROW|3THROUGH SMALL CIRCLE",
  "3WITH DOUBLE VERTICAL STROKE|4STROKE|4VERTICAL STROKE|2BLACK ARROW|2DOUBLE ARROW|4WITH STROKE",
  "5VERTICAL STROKE|2OPEN-HEADED ARROW|2SANS-SERIF ARROW|2TRIANGLE-HEADED ARROW|2WAVE ARROW",
  "2WHITE ARROW|1S-SHAPED BAG DELIMITER|1SEMIDIRECT PRODUCT|1SEVEN EIGHTHS BLOCK",
  "1SIDEWAYS U BRACKET|1SINGLE QUOTATION MARK|1SPEECH BUBBLE|1SQUARE BRACKET|3EXTENSION",
  "3LOWER CORNER|3UPPER CORNER|3WITH DOUBLE STROKE|4QUILL|4STROKE|4TICK IN BOTTOM CORNER",
  "6TOP CORNER|4UNDERBAR|1SUBSTITUTION BRACKET|1TACK|1THIRD WHITE RIGHT POINTING INDEX",
  "1THOUGHT BUBBLE|1THREE EIGHTHS BLOCK|2QUARTERS BLOCK|1TORTOISE SHELL BRACKET",
  "1TRANSPOSITION BRACKET|1TRIANGLE BESIDE VERTICAL BAR|1TRIANGULAR ONE QUARTER BLOCK",
  "1VERTICAL BAR WITH QUILL|2BOX LINE|1WHITE CORNER BRACKET|2CURLY BRACKET|2LENTICULAR BRACKET",
  "2PARENTHESIS|2SQUARE BRACKET|2TORTOISE SHELL BRACKET|1WIGGLY FENCE|1WRITING HAND",
  "0LEFT-FACING ARMENIAN ETERNITY SIGN|1FIST|1SVASTI SIGN|3WITH DOTS",
  "0LEFT-HANDED INTERLACED PENTAGRAM|0LEFT-POINTING ANGLE BRACKET|1CURVED ANGLE BRACKET",
  "1DOUBLE ANGLE QUOTATION MARK|1MAGNIFYING GLASS|0LEFT-SHADED WHITE RIGHTWARDS ARROW",
  "0LEFT-SIDE ARC ANTICLOCKWISE ARROW|0LEFT-TO-RIGHT EMBEDDING|1ISOLATE|1MARK|1OVERRIDE",
  "0LEFTWARDS ARROW|2ABOVE ALMOST EQUAL TO|3REVERSE ALMOST EQUAL TO|4TILDE OPERATOR",
  "3SHORT RIGHTWARDS ARROW|3TILDE OPERATOR|2AND UPPER AND LOWER ONE EIGHTH BLOCK|2FROM BAR",
  "4TO BLACK DIAMOND|2OVER RIGHTWARDS ARROW|2THROUGH LESS-THAN|3SUBSET|3X|2TO BAR",
  "4OVER RIGHTWARDS ARROW TO BAR|3BLACK DIAMOND|2WITH DOTTED STEM|3DOUBLE VERTICAL STROKE",
  "3EQUILATERAL ARROWHEAD|3HOOK|3LARGE TRIANGLE ARROWHEAD|3LOOP|3MEDIUM TRIANGLE ARROWHEAD",
  "3NOTCHED TAIL|3PLUS BELOW|3SMALL EQUILATERAL ARROWHEAD|4TRIANGLE ARROWHEAD|3STROKE|3TAIL",
  "4WITH DOUBLE VERTICAL STROKE|5VERTICAL STROKE|3TIP DOWNWARDS|4UPWARDS|3VERTICAL STROKE",
  "1ARROW-TAIL|1BACK-TILTED SHADOWED WHITE ARROW|1BLACK ARROW|2CIRCLED WHITE ARROW",
  "1BOTTOM-SHADED WHITE ARROW|1COMPRESSED ARROW|1DASHED ARROW|1DOUBLE ARROW|3FROM BAR|3WITH STROKE",
  "4VERTICAL STROKE|2ARROW-TAIL|2DASH ARROW|1FINGER-POST ARROW|1FRONT-TILTED SHADOWED WHITE ARROW",
  "1HAND|1HARPOON OVER RIGHTWARDS HARPOON|2WITH BARB DOWN ABOVE RIGHTWARDS HARPOON WITH BARB DOWN",
  "5BELOW LONG DASH|5FROM BAR|5TO BAR|4DOWNWARDS|4UP ABOVE LEFTWARDS HARPOON WITH BARB DOWN",
  "6LONG DASH|6RIGHTWARDS HARPOON WITH BARB UP|5FROM BAR|5TO BAR|4UPWARDS|1HEAVY ARROW",
  "2COMPRESSED ARROW|1LEFT-SHADED WHITE ARROW|1OPEN-HEADED ARROW|1PAIRED ARROWS|1QUADRUPLE ARROW",
  "1RIGHT-SHADED WHITE ARROW|1ROCKET|1SANS-SERIF ARROW|1SQUARED ARROW|1SQUIGGLE ARROW",
  "1TOP SHADED WHITE ARROW|1TRIANGLE ARROWHEAD|1TRIANGLE-HEADED ARROW",
  "3OVER RIGHTWARDS TRIANGLE-HEADED ARROW|3TO BAR|3WITH BOLD SHAFT|4DOUBLE HORIZONTAL STROKE",
  "5VERTICAL STROKE|4HEAVY SHAFT|4LONG TIP DOWNWARDS|6UPWARDS|4MEDIUM SHAFT|4NARROW SHAFT",
  "4VERY HEAVY SHAFT|2DASHED ARROW|2PAIRED ARROWS|1TRIPLE ARROW|2DASH ARROW|1TWO HEADED ARROW",
  "1TWO-HEADED ARROW FROM BAR|3WITH DOUBLE VERTICAL STROKE|4TAIL|5WITH DOUBLE VERTICAL STROKE",
  "6VERTICAL STROKE|4TRIANGLE ARROWHEADS|4VERTICAL STROKE|2TRIPLE DASH ARROW|1WAVE ARROW",
  "1WHITE ARROW|3WITHIN TRIANGLE ARROWHEAD|0LEG|0LEMON|0LEO|0LEOPARD|0LEPCHA CONSONANT SIGN K",
  "3KANG|3L|3M|3N|3NYIN-DO|3P|3R|3T|1DIGIT EIGHT|2FIVE|2FOUR|2NINE|2ONE|2SEVEN|2SIX|2THREE|2TWO",
  "2ZERO|1LETTER A|2BA|2BLA|2CA|2CHA|2DA|2DDA|2DZA|2FA|2FLA|2GA|2GLA|2HA|2HLA|2JA|2KA|2KHA|2KLA",
  "2LA|2MA|2MLA|2NA|2NGA|2NYA|2PA|2PHA|2PLA|2RA|2SA|2SHA|2TA|2THA|2TSA|2TSHA|2TTA|2TTHA|2VA|2WA",
  "2YA|1PUNCTUATION CER-WA|2NYET THYOOM TA-ROL|2TA-ROL|2TSHOOK|3CER-WA|1SIGN NUKTA|2RAN",
  "1SUBJOINED LETTER RA|3YA|1VOWEL SIGN AA|3E|3I|3O|3OO|3U|3UU",
  "0LESS-THAN ABOVE DOUBLE-LINE EQUAL ABOVE GREATER-THAN|2GREATER-THAN ABOVE DOUBLE-LINE EQUAL",
  "2LEFTWARDS ARROW|2SIMILAR ABOVE GREATER-THAN|3OR EQUAL",
  "2SLANTED EQUAL ABOVE GREATER-THAN ABOVE SLANTED EQUAL|1AND NOT APPROXIMATE",
  "2SINGLE-LINE NOT EQUAL TO|1BUT NOT EQUAL TO|3EQUIVALENT TO|1CLOSED BY CURVE",
  "4ABOVE SLANTED EQUAL|1EQUAL TO OR GREATER-THAN|1OR APPROXIMATE|2EQUAL TO|2EQUIVALENT TO",
  "2GREATER-THAN|2SLANTED EQUAL TO|5WITH DOT ABOVE|8RIGHT|7INSIDE|1OVER EQUAL TO|1SIGN",
  "1WITH CIRCLE INSIDE|2DOT|2QUESTION MARK ABOVE|0LEVEL SLIDER|0LF|0LIBRA",
  "0LIGATURE OPEN ET ORNAMENT|0LIGHT CHECK MARK|1EIGHT SPOKED ASTERISK|1FIVE POINTED BLACK STAR",
  "2SPOKED ASTERISK|1FOUR POINTED BLACK CUSP|4STAR|1GREEK CROSS",
  "1LEFT TORTOISE SHELL BRACKET ORNAMENT|1RAIL|1RIGHT TORTOISE SHELL BRACKET ORNAMENT|1SALTIRE",
  "1SHADE|1SIX SPOKED ASTERISK|1THREE POINTED BLACK STAR|1TWELVE POINTED BLACK STAR|1VERTICAL BAR",
  "1WHITE SQUARE|0LIGHTNING|1MOOD|2BUBBLE|0LIMBU DIGIT EIGHT|2FIVE|2FOUR|2NINE|2ONE|2SEVEN|2SIX",
  "2THREE|2TWO|2ZERO|1EXCLAMATION MARK|1LETTER BA|2BHA|2CA|2CHA|2DA|2DHA|2GA|2GHA|2GYAN|2HA|2JA",
  "2JHA|2KA|2KHA|2LA|2MA|2NA|2NGA|2PA|2PHA|2RA|2SA|2SHA|2SSA|2TA|2THA|2TRA|2WA|2YA|2YAN",
  "1QUESTION MARK|1SIGN KEMPHRENG|2LOO|2MUKPHRENG|2SA-I|1SMALL LETTER ANUSVARA|3KA|3LA|3MA|3NA",
  "3NGA|3PA|3RA|3TA|1SUBJOINED LETTER RA|3WA|3YA|1VOWEL SIGN A|3AI|3AU|3E|3EE|3I|3O|3OO|3U",
  "1VOWEL-CARRIER LETTER|0LIMITED LIABILITY SIGN|0LINE FEED|1INTEGRATION NOT INCLUDING THE POLE",
  "2WITH RECTANGULAR PATH AROUND POLE|3SEMICIRCULAR PATH AROUND POLE|1SEPARATOR|1TABULATION|2SET",
  "0LINEAR A SIGN A028B|3A100-102|3A120B|3A131C|3A301|3A302|3A303|3A304|3A305|3A306|3A307|3A308",
  "3A309A|3A309B|3A309C|3A310|3A311|3A312|3A313A|3A313B|3A313C|3A314|3A315|3A316|3A317|3A318|3A319",
  "3A320|3A321|3A322|3A323|3A324|3A325|3A326|3A327|3A328|3A329|3A330|3A331|3A332|3A333|3A334|3A335",
  "3A336|3A337|3A338|3A339|3A340|3A341|3A342|3A343|3A344|3A345|3A346|3A347|3A348|3A349|3A350|3A351",
  "3A352|3A353|3A354|3A355|3A356|3A357|3A358|3A359|3A360|3A361|3A362|3A363|3A364|3A365|3A366|3A367",
  "3A368|3A369|3A370|3A371|3A400-VAS|3A401-VAS|3A402-VAS|3A403-VAS|3A404-VAS|3A405-VAS|3A406-VAS",
  "3A407-VAS|3A408-VAS|3A409-VAS|3A410-VAS|3A411-VAS|3A412-VAS|3A413-VAS|3A414-VAS|3A415-VAS",
  "3A416-VAS|3A417-VAS|3A418-VAS|3A501|3A502|3A503|3A504|3A505|3A506|3A508|3A509|3A510|3A511|3A512",
  "3A513|3A515|3A516|3A520|3A521|3A523|3A524|3A525|3A526|3A527|3A528|3A529|3A530|3A531|3A532|3A534",
  "3A535|3A536|3A537|3A538|3A539|3A540|3A541|3A542|3A545|3A547|3A548|3A549|3A550|3A551|3A552|3A553",
  "3A554|3A555|3A556|3A557|3A559|3A563|3A564|3A565|3A566|3A568|3A569|3A570|3A571|3A572|3A573|3A574",
  "3A575|3A576|3A577|3A578|3A579|3A580|3A581|3A582|3A583|3A584|3A585|3A586|3A587|3A588|3A589|3A591",
  "3A592|3A594|3A595|3A596|3A598|3A600|3A601|3A602|3A603|3A604|3A606|3A608|3A609|3A610|3A611|3A612",
  "3A613|3A614|3A615|3A616|3A617|3A618|3A619|3A620|3A621|3A622|3A623|3A624|3A626|3A627|3A628|3A629",
  "3A634|3A637|3A638|3A640|3A642|3A643|3A644|3A645|3A646|3A648|3A649|3A651|3A652|3A653|3A654|3A655",
  "3A656|3A657|3A658|3A659|3A660|3A661|3A662|3A663|3A664|3A701 A|3A702 B|3A703 D|3A704 E|3A705 F",
  "3A706 H|3A707 J|3A708 K|3A709 L|3A709-2 L2|3A709-3 L3|3A709-4 L4|3A709-6 L6|3A710 W|3A711 X",
  "3A712 Y|3A713 OMEGA|3A714 ABB|3A715 BB|3A717 DD|3A726 EYYY|3A732 JE|3A800|3A801|3A802|3A803",
  "3A804|3A805|3A806|3A807|3AB001|3AB002|3AB003|3AB004|3AB005|3AB006|3AB007|3AB008|3AB009|3AB010",
  "3AB011|3AB013|3AB016|3AB017|3AB020|3AB021|3AB021F|3AB021M|3AB022|3AB022F|3AB022M|3AB023|3AB023M",
  "3AB024|3AB026|3AB027|3AB028|3AB029|3AB030|3AB031|3AB034|3AB037|3AB038|3AB039|3AB040|3AB041",
  "3AB044|3AB045|3AB046|3AB047|3AB048|3AB049|3AB050|3AB051|3AB053|3AB054|3AB055|3AB056|3AB057",
  "3AB058|3AB059|3AB060|3AB061|3AB065|3AB066|3AB067|3AB069|3AB070|3AB073|3AB074|3AB076|3AB077",
  "3AB078|3AB079|3AB080|3AB081|3AB082|3AB085|3AB086|3AB087|3AB118|3AB120|3AB122|3AB123|3AB131A",
  "3AB131B|3AB164|3AB171|3AB180|3AB188|3AB191|1B IDEOGRAM B100 MAN|3B102 WOMAN|3B104 DEER",
  "3B105 EQUID|3B105F MARE|3B105M STALLION|3B106F EWE|3B106M RAM|3B107F SHE-GOAT|3B107M HE-GOAT",
  "3B108F SOW|3B108M BOAR|3B109F COW|3B109M BULL|3B120 WHEAT|3B121 BARLEY|3B122 OLIVE|3B123 SPICE",
  "3B125 CYPERUS|3B130 OIL|3B131 WINE|3B132|3B140 BRONZE|3B141 GOLD|3B142|3B145 WOOL|3B146|3B150",
  "3B151 HORN|3B152|3B153|3B154|3B157|3B158|3B159 CLOTH|3B160|3B161|3B162 GARMENT|3B163 ARMOUR",
  "3B164|3B165|3B166|3B167|3B168|3B169|3B170|3B171|3B172|3B173 MONTH|3B174|3B176 TREE|3B177|3B178",
  "3B179|3B180|3B181|3B182|3B183|3B184|3B185|3B189|3B190|3B191 HELMET|3B220 FOOTSTOOL",
  "3B225 BATHTUB|3B230 SPEAR|3B231 ARROW|3B232|3B233 SWORD|3B234|3B236|3B240 WHEELED CHARIOT",
  "3B241 CHARIOT|3B242 CHARIOT FRAME|3B243 WHEEL|3B245|3B246|3B248|3B249|3B251|3B252|3B253",
  "3B254 DART|3B255|3B256|3B257|3B258|3B259|3VESSEL B155|4B200|4B201|4B202|4B203|4B204|4B205|4B206",
  "4B207|4B208|4B209|4B210|4B211|4B212|4B213|4B214|4B215|4B216|4B217|4B218|4B219|4B221|4B222|4B226",
  "4B227|4B228|4B229|4B250|4B305|2MONOGRAM B127 KAPO|3B128 KANAKO|3B133 AREPA|3B135 MERI",
  "3B156 TURO2|3B247 DIPTE|2SYLLABLE B001 DA|3B002 RO|3B003 PA|3B004 TE|3B005 TO|3B006 NA|3B007 DI",
  "3B008 A|3B009 SE|3B010 U|3B011 PO|3B012 SO|3B013 ME|3B014 DO|3B015 MO|3B016 QA|3B017 ZA",
  "3B020 ZO|3B021 QI|3B023 MU|3B024 NE|3B025 A2|3B026 RU|3B027 RE|3B028 I|3B029 PU2|3B030 NI",
  "3B031 SA|3B032 QO|3B033 RA3|3B036 JO|3B037 TI|3B038 E|3B039 PI|3B040 WI|3B041 SI|3B042 WO",
  "3B043 A3|3B044 KE|3B045 DE|3B046 JE|3B048 NWA|3B050 PU|3B051 DU|3B052 NO|3B053 RI|3B054 WA",
  "3B055 NU|3B057 JA|3B058 SU|3B059 TA|3B060 RA|3B061 O|3B062 PTE|3B065 JU|3B066 TA2|3B067 KI",
  "3B068 RO2|3B069 TU|3B070 KO|3B071 DWE|3B072 PE|3B073 MI|3B074 ZE|3B075 WE|3B076 RA2|3B077 KA",
  "3B078 QE|3B080 MA|3B081 KU|3B085 AU|3B087 TWE|3B090 DWO|3B091 TWO|2SYMBOL B018|3B019|3B022",
  "3B034|3B047|3B049|3B056|3B063|3B064|3B079|3B082|3B083|3B086|3B089|0LINK SYMBOL",
  "0LINKED PAPERCLIPS|0LION FACE|0LIPS|0LIPSTICK|0LIRA SIGN|0LISU LETTER A|2AE|2BA|2CA|2CHA|2DA",
  "2DZA|2E|2EU|2FA|2GA|2GHA|2HA|2HHA|2I|2JA|2KA|2KHA|2LA|2MA|2NA|2NGA|2O|2OE|2PA|2PHA|2SA|2SHA|2TA",
  "2THA|2TONE MYA BO|4CYA|4JEU|4NA|4TI|3NA PO|2TSA|2TSHA|2U|2UE|2UH|2WA|2XA|2YA|2YHA|2ZA|2ZHA",
  "1PUNCTUATION COMMA|2FULL STOP|0LIVRE TOURNOIS SIGN|0LIZARD|0LLAMA|0LOBSTER|0LOCK|1WITH INK PEN",
  "0LOCKING-SHIFT ONE|1ZERO|0LOGICAL AND|2WITH DOT ABOVE|3DOUBLE OVERBAR|4UNDERBAR",
  "3HORIZONTAL DASH|3MIDDLE STEM|3UNDERBAR|1OR|2OVERLAPPING LOGICAL AND|2WITH DOT ABOVE",
  "3DOUBLE OVERBAR|4UNDERBAR|3HORIZONTAL DASH|3MIDDLE STEM|0LOLLIPOP",
  "0LONG DASH FROM LEFT MEMBER OF DOUBLE VERTICAL|1DIVISION|1DRUM|1LEFT RIGHT ARROW|3DOUBLE ARROW",
  "2TACK|1LEFTWARDS ARROW|3FROM BAR|2DOUBLE ARROW|4FROM BAR|2SQUIGGLE ARROW|1RIGHT TACK",
  "1RIGHTWARDS ARROW|3FROM BAR|2DOUBLE ARROW|4FROM BAR|2SQUIGGLE ARROW|0LOTION BOTTLE|0LOTUS",
  "0LOUDLY CRYING FACE|0LOVE HOTEL|1LETTER|0LOW ASTERISK|1BATTERY|1BRIGHTNESS SYMBOL",
  "1DOUBLE PRIME QUOTATION MARK|1KAVYKA|2WITH DOT|1LINE|0LOWER BLADE SCISSORS|1FIVE EIGHTHS BLOCK",
  "1HALF BLOCK|2CIRCLE|2INVERSE WHITE CIRCLE|2MEDIUM SHADE|1LEFT BALLPOINT PEN",
  "2BLOCK DIAGONAL LOWER MIDDLE LEFT TO LOWER CENTRE|9RIGHT|4UPPER CENTRE TO LOWER MIDDLE RIGHT",
  "8RIGHT|7UPPER MIDDLE RIGHT|5LEFT TO LOWER CENTRE|8MIDDLE RIGHT|7UPPER MIDDLE RIGHT",
  "5MIDDLE LEFT TO LOWER CENTRE|9MIDDLE RIGHT|9RIGHT|2CRAYON|2FOUNTAIN PEN|2PAINTBRUSH|2PENCIL",
  "2QUADRANT CIRCULAR ARC|2SEMICIRCULAR ANTICLOCKWISE ARROW|2TRIANGLE|2TRIANGULAR MEDIUM SHADE",
  "1ONE EIGHTH BLOCK|2QUARTER BLOCK|1RIGHT BLOCK DIAGONAL LOWER CENTRE TO LOWER MIDDLE RIGHT",
  "7UPPER MIDDLE RIGHT|8RIGHT|5LEFT TO LOWER MIDDLE RIGHT|7UPPER CENTRE|8MIDDLE RIGHT",
  "5MIDDLE LEFT TO UPPER CENTRE|9MIDDLE RIGHT|9RIGHT|4UPPER MIDDLE LEFT TO UPPER CENTRE|9RIGHT",
  "2CORNER WITH DOT|2DROP-SHADOWED WHITE SQUARE|2PENCIL|2QUADRANT CIRCULAR ARC",
  "2SEMICIRCULAR CLOCKWISE ARROW|2SHADOWED WHITE CIRCLE|4SQUARE|2TRIANGLE|2TRIANGULAR MEDIUM SHADE",
  "1SEVEN EIGHTHS BLOCK|1THREE EIGHTHS BLOCK|2QUARTERS BLOCK|1TRIANGULAR ONE QUARTER BLOCK",
  "0LOZENGE|1DIVIDED BY HORIZONTAL RULE|0LRE|0LRI|0LRM|0LRO|0LUGGAGE|0LUNGS|0LYCIAN LETTER A|2AN",
  "2B|2BH|2D|2E|2EN|2G|2H|2I|2J|2K|2KK|2L|2M|2MM|2N|2NN|2P|2Q|2R|2S|2T|2TH|2TT|2U|2W|2X|2Z",
  "0LYDIAN LETTER A|2AN|2B|2C|2D|2E|2EN|2F|2G|2I|2K|2L|2LY|2M|2N|2NN|2O|2Q|2R|2S|2SS|2T|2TT|2U|2V",
  "2Y|1TRIANGULAR MARK|0LYING FACE"]

def namesFromM : List String := [
  "0MACRON|0MAGE|0MAGIC WAND|0MAGNET|0MAHAJANI ABBREVIATION SIGN|1LETTER A|2BA|2BHA|2CA|2CHA|2DA",
  "2DDA|2DDHA|2DHA|2E|2GA|2GHA|2HA|2I|2JA|2JHA|2KA|2KHA|2LA|2MA|2NA|2NNA|2NYA|2O|2PA|2PHA|2RA|2RRA",
  "2SA|2TA|2THA|2TTA|2TTHA|2U|2VA|1LIGATURE SHRI|1SECTION MARK|1SIGN NUKTA|0MAHJONG TILE AUTUMN",
  "2BACK|2BAMBOO|2CHRYSANTHEMUM|2EAST WIND|2EIGHT OF BAMBOOS|4CHARACTERS|4CIRCLES|2FIVE OF BAMBOOS",
  "4CHARACTERS|4CIRCLES|2FOUR OF BAMBOOS|4CHARACTERS|4CIRCLES|2GREEN DRAGON|2JOKER",
  "2NINE OF BAMBOOS|4CHARACTERS|4CIRCLES|2NORTH WIND|2ONE OF BAMBOOS|4CHARACTERS|4CIRCLES|2ORCHID",
  "2PLUM|2RED DRAGON|2SEVEN OF BAMBOOS|4CHARACTERS|4CIRCLES|2SIX OF BAMBOOS|4CHARACTERS|4CIRCLES",
  "2SOUTH WIND|2SPRING|2SUMMER|2THREE OF BAMBOOS|4CHARACTERS|4CIRCLES|2TWO OF BAMBOOS|4CHARACTERS",
  "4CIRCLES|2WEST WIND|2WHITE DRAGON|2WINTER|0MAKASAR ANGKA|1END OF SECTION|1LETTER A|2BA|2CA|2DA",
  "2GA|2JA|2KA|2LA|2MA|2NA|2NGA|2NYA|2PA|2RA|2SA|2TA|2VA|2YA|1PASSIMBANG|1VOWEL SIGN E|3I|3O|3U",
  "0MALAYALAM AU LENGTH MARK|1DATE MARK|1DIGIT EIGHT|2FIVE|2FOUR|2NINE|2ONE|2SEVEN|2SIX|2THREE",
  "2TWO|2ZERO|1FRACTION ONE EIGHTH|3FIFTH|3FORTIETH|3HALF|3ONE-HUNDRED-AND-SIXTIETH|3QUARTER",
  "3SIXTEENTH|3TENTH|3TWENTIETH|2THREE EIGHTIETHS|3QUARTERS|3SIXTEENTHS|3TWENTIETHS|1LETTER A|2AA",
  "2AI|2ARCHAIC II|2AU|2BA|2BHA|2CA|2CHA|2CHILLU K|3L|3LL|3LLL|3M|3N|3NN|3RR|3Y|2DA|2DDA|2DDHA",
  "2DHA|2DOT REPH|2E|2EE|2GA|2GHA|2HA|2I|2II|2JA|2JHA|2KA|2KHA|2LA|2LLA|2LLLA|2MA|2NA|2NGA|2NNA",
  "2NNNA|2NYA|2O|2OO|2PA|2PHA|2RA|2RRA|2SA|2SHA|2SSA|2TA|2THA|2TTA|2TTHA|2TTTA|2U|2UU|2VA",
  "2VEDIC ANUSVARA|2VOCALIC L|3LL|3R|3RR|2YA|1NUMBER ONE HUNDRED|3THOUSAND|2TEN|1SIGN ANUSVARA",
  "2AVAGRAHA|2CANDRABINDU|2CIRCULAR VIRAMA|2COMBINING ANUSVARA ABOVE|2PARA|2VERTICAL BAR VIRAMA",
  "2VIRAMA|2VISARGA|1VOWEL SIGN AA|3AI|3AU|3E|3EE|3I|3II|3O|3OO|3U|3UU|3VOCALIC L|4LL|4R|4RR",
  "0MALE AND FEMALE SIGN|1SIGN|1WITH STROKE AND MALE AND FEMALE SIGN|3SIGN|0MALTESE CROSS|0MAMMOTH",
  "0MAN|1AND WOMAN HOLDING HANDS|1DANCING|1IN BUSINESS SUIT LEVITATING|2TUXEDO|1WITH GUA PI MAO",
  "2TURBAN|0MANAT SIGN|0MANDAIC AFFRICATION MARK|1GEMINATION MARK|1LETTER AB|2AD|2AG|2AH|2AIN|2AK",
  "2AKSA|2AL|2AM|2AN|2AP|2AQ|2AR|2AS|2ASH|2ASZ|2AT|2ATT|2AZ|2DUSHENNA|2HALQA|2IN|2IT|2KAD|2USHENNA",
  "1PUNCTUATION|1VOCALIZATION MARK|0MANGO|0MANICHAEAN ABBREVIATION MARK ABOVE|3BELOW|1LETTER AAYIN",
  "2ALEPH|2AYIN|2BETH|2BHETH|2DALETH|2DHAMEDH|2FE|2GHIMEL|2GIMEL|2HE|2HETH|2JAYIN|2JHAYIN|2KAPH",
  "2KHAPH|2LAMEDH|2MEM|2NUN|2PE|2QHOPH|2QOPH|2RESH|2SADHE|2SAMEKH|2SHIN|2SSHIN|2TAW|2TETH|2THAMEDH",
  "2WAW|2XAPH|2XOPH|2YODH|2ZAYIN|2ZHAYIN|1NUMBER FIVE|2ONE|3HUNDRED|2TEN|2TWENTY|1PUNCTUATION DOT",
  "3WITHIN DOT|2DOUBLE DOT WITHIN DOT|2FLEURON|2LINE FILLER|2STAR|2TWO DOTS|1SIGN UD|0MANS SHOE",
  "0MANTELPIECE CLOCK|0MANUAL WHEELCHAIR|0MAP SYMBOL FOR LIGHTHOUSE|0MAPLE LEAF|0MARCHEN HEAD MARK",
  "1LETTER -A|2A|2BA|2CA|2CHA|2DA|2DZA|2GA|2HA|2JA|2KA|2KHA|2LA|2MA|2NA|2NGA|2NYA|2PA|2PHA|2RA|2SA",
  "2SHA|2TA|2THA|2TSA|2TSHA|2WA|2YA|2ZA|2ZHA|1MARK SHAD|1SIGN ANUSVARA|2CANDRABINDU",
  "1SUBJOINED LETTER A|3BA|3CA|3CHA|3DA|3DZA|3GA|3HA|3JA|3KA|3KHA|3LA|3MA|3NA|3NGA|3NYA|3PA|3PHA",
  "3RA|3SA|3SHA|3TA|3THA|3TSA|3TSHA|3WA|3YA|3ZA|3ZHA|1VOWEL SIGN AA|3E|3I|3O|3U|0MARRIAGE SYMBOL",
  "0MARTIAL ARTS UNIFORM|0MASARAM GONDI DIGIT EIGHT|3FIVE|3FOUR|3NINE|3ONE|3SEVEN|3SIX|3THREE|3TWO",
  "3ZERO|2LETTER A|3AA|3AI|3AU|3BA|3BHA|3CA|3CHA|3DA|3DDA|3DDHA|3DHA|3E|3GA|3GHA|3HA|3I|3II|3JA",
  "3JHA|3JNYA|3KA|3KHA|3KSSA|3LA|3LLA|3MA|3NA|3NGA|3NNA|3NYA|3O|3PA|3PHA|3RA|3SA|3SHA|3SSA|3TA",
  "3THA|3TRA|3TTA|3TTHA|3U|3UU|3VA|3YA|2RA-KARA|2REPHA|2SIGN ANUSVARA|3CANDRA|3HALANTA|3NUKTA",
  "3VISARGA|2VIRAMA|2VOWEL SIGN AA|4AI|4AU|4E|4I|4II|4O|4U|4UU|4VOCALIC R",
  "0MASCULINE ORDINAL INDICATOR|0MASK WORK SYMBOL|0MASU MARK|0MATE DRINK",
  "0MATHEMATICAL BOLD CAPITAL A|3ALPHA|3B|3BETA|3C|3CHI|3D|3DELTA|3DIGAMMA|3E|3EPSILON|3ETA|3F|3G",
  "3GAMMA|3H|3I|3IOTA|3J|3K|3KAPPA|3L|3LAMDA|3M|3MU|3N|3NU|3O|3OMEGA|3OMICRON|3P|3PHI|3PI|3PSI|3Q",
  "3R|3RHO|3S|3SIGMA|3T|3TAU|3THETA|4SYMBOL|3U|3UPSILON|3V|3W|3X|3XI|3Y|3Z|3ZETA|2DIGIT EIGHT",
  "3FIVE|3FOUR|3NINE|3ONE|3SEVEN|3SIX|3THREE|3TWO|3ZERO|2EPSILON SYMBOL|2FRAKTUR CAPITAL A|4B|4C",
  "4D|4E|4F|4G|4H|4I|4J|4K|4L|4M|4N|4O|4P|4Q|4R|4S|4T|4U|4V|4W|4X|4Y|4Z|3SMALL A|4B|4C|4D|4E|4F|4G",
  "4H|4I|4J|4K|4L|4M|4N|4O|4P|4Q|4R|4S|4T|4U|4V|4W|4X|4Y|4Z|2ITALIC CAPITAL A|4ALPHA|4B|4BETA|4C",
  "4CHI|4D|4DELTA|4E|4EPSILON|4ETA|4F|4G|4GAMMA|4H|4I|4IOTA|4J|4K|4KAPPA|4L|4LAMDA|4M|4MU|4N|4NU",
  "4O|4OMEGA|4OMICRON|4P|4PHI|4PI|4PSI|4Q|4R|4RHO|4S|4SIGMA|4T|4TAU|4THETA|5SYMBOL|4U|4UPSILON|4V",
  "4W|4X|4XI|4Y|4Z|4ZETA|3EPSILON SYMBOL|3KAPPA SYMBOL|3NABLA|3PARTIAL DIFFERENTIAL|3PHI SYMBOL",
  "3PI SYMBOL|3RHO SYMBOL|3SMALL A|4ALPHA|4B|4BETA|4C|4CHI|4D|4DELTA|4E|4EPSILON|4ETA|4F",
  "4FINAL SIGMA|4G|4GAMMA|4H|4I|4IOTA|4J|4K|4KAPPA|4L|4LAMDA|4M|4MU|4N|4NU|4O|4OMEGA|4OMICRON|4P",
  "4PHI|4PI|4PSI|4Q|4R|4RHO|4S|4SIGMA|4T|4TAU|4THETA|4U|4UPSILON|4V|4W|4X|4XI|4Y|4Z|4ZETA",
  "3THETA SYMBOL|2KAPPA SYMBOL|2NABLA|2PARTIAL DIFFERENTIAL|2PHI SYMBOL|2PI SYMBOL|2RHO SYMBOL",
  "2SCRIPT CAPITAL A|4B|4C|4D|4E|4F|4G|4H|4I|4J|4K|4L|4M|4N|4O|4P|4Q|4R|4S|4T|4U|4V|4W|4X|4Y|4Z",
  "3SMALL A|4B|4C|4D|4E|4F|4G|4H|4I|4J|4K|4L|4M|4N|4O|4P|4Q|4R|4S|4T|4U|4V|4W|4X|4Y|4Z|2SMALL A",
  "3ALPHA|3B|3BETA|3C|3CHI|3D|3DELTA|3DIGAMMA|3E|3EPSILON|3ETA|3F|3FINAL SIGMA|3G|3GAMMA|3H|3I",
  "3IOTA|3J|3K|3KAPPA|3L|3LAMDA|3M|3MU|3N|3NU|3O|3OMEGA|3OMICRON|3P|3PHI|3PI|3PSI|3Q|3R|3RHO|3S",
  "3SIGMA|3T|3TAU|3THETA|3U|3UPSILON|3V|3W|3X|3XI|3Y|3Z|3ZETA|2THETA SYMBOL",
  "1DOUBLE-STRUCK CAPITAL A|3B|3D|3E|3F|3G|3I|3J|3K|3L|3M|3O|3S|3T|3U|3V|3W|3X|3Y|2DIGIT EIGHT",
  "3FIVE|3FOUR|3NINE|3ONE|3SEVEN|3SIX|3THREE|3TWO|3ZERO|2SMALL A|3B|3C|3D|3E|3F|3G|3H|3I|3J|3K|3L",
  "3M|3N|3O|3P|3Q|3R|3S|3T|3U|3V|3W|3X|3Y|3Z|1FALLING DIAGONAL|1FRAKTUR CAPITAL A|3B|3D|3E|3F|3G",
  "3J|3K|3L|3M|3N|3O|3P|3Q|3S|3T|3U|3V|3W|3X|3Y|2SMALL A|3B|3C|3D|3E|3F|3G|3H|3I|3J|3K|3L|3M|3N|3O",
  "3P|3Q|3R|3S|3T|3U|3V|3W|3X|3Y|3Z|1ITALIC CAPITAL A|3ALPHA|3B|3BETA|3C|3CHI|3D|3DELTA|3E",
  "3EPSILON|3ETA|3F|3G|3GAMMA|3H|3I|3IOTA|3J|3K|3KAPPA|3L|3LAMDA|3M|3MU|3N|3NU|3O|3OMEGA|3OMICRON",
  "3P|3PHI|3PI|3PSI|3Q|3R|3RHO|3S|3SIGMA|3T|3TAU|3THETA|4SYMBOL|3U|3UPSILON|3V|3W|3X|3XI|3Y|3Z",
  "3ZETA|2EPSILON SYMBOL|2KAPPA SYMBOL|2NABLA|2PARTIAL DIFFERENTIAL|2PHI SYMBOL|2PI SYMBOL",
  "2RHO SYMBOL|2SMALL A|3ALPHA|3B|3BETA|3C|3CHI|3D|3DELTA|3DOTLESS I|4J|3E|3EPSILON|3ETA|3F",
  "3FINAL SIGMA|3G|3GAMMA|3I|3IOTA|3J|3K|3KAPPA|3L|3LAMDA|3M|3MU|3N|3NU|3O|3OMEGA|3OMICRON|3P|3PHI",
  "3PI|3PSI|3Q|3R|3RHO|3S|3SIGMA|3T|3TAU|3THETA|3U|3UPSILON|3V|3W|3X|3XI|3Y|3Z|3ZETA|2THETA SYMBOL",
  "1LEFT ANGLE BRACKET|2DOUBLE ANGLE BRACKET|2FLATTENED PARENTHESIS|2WHITE SQUARE BRACKET",
  "3TORTOISE SHELL BRACKET|1MONOSPACE CAPITAL A|3B|3C|3D|3E|3F|3G|3H|3I|3J|3K|3L|3M|3N|3O|3P|3Q|3R",
  "3S|3T|3U|3V|3W|3X|3Y|3Z|2DIGIT EIGHT|3FIVE|3FOUR|3NINE|3ONE|3SEVEN|3SIX|3THREE|3TWO|3ZERO",
  "2SMALL A|3B|3C|3D|3E|3F|3G|3H|3I|3J|3K|3L|3M|3N|3O|3P|3Q|3R|3S|3T|3U|3V|3W|3X|3Y|3Z",
  "1RIGHT ANGLE BRACKET|2DOUBLE ANGLE BRACKET|2FLATTENED PARENTHESIS|2WHITE SQUARE BRACKET",
  "3TORTOISE SHELL BRACKET|1RISING DIAGONAL|1SANS-SERIF BOLD CAPITAL A|4ALPHA|4B|4BETA|4C|4CHI|4D",
  "4DELTA|4E|4EPSILON|4ETA|4F|4G|4GAMMA|4H|4I|4IOTA|4J|4K|4KAPPA|4L|4LAMDA|4M|4MU|4N|4NU|4O|4OMEGA",
  "4OMICRON|4P|4PHI|4PI|4PSI|4Q|4R|4RHO|4S|4SIGMA|4T|4TAU|4THETA|5SYMBOL|4U|4UPSILON|4V|4W|4X|4XI",
  "4Y|4Z|4ZETA|3DIGIT EIGHT|4FIVE|4FOUR|4NINE|4ONE|4SEVEN|4SIX|4THREE|4TWO|4ZERO|3EPSILON SYMBOL",
  "3ITALIC CAPITAL A|5ALPHA|5B|5BETA|5C|5CHI|5D|5DELTA|5E|5EPSILON|5ETA|5F|5G|5GAMMA|5H|5I|5IOTA",
  "5J|5K|5KAPPA|5L|5LAMDA|5M|5MU|5N|5NU|5O|5OMEGA|5OMICRON|5P|5PHI|5PI|5PSI|5Q|5R|5RHO|5S|5SIGMA",
  "5T|5TAU|5THETA|6SYMBOL|5U|5UPSILON|5V|5W|5X|5XI|5Y|5Z|5ZETA|4EPSILON SYMBOL|4KAPPA SYMBOL",
  "4NABLA|4PARTIAL DIFFERENTIAL|4PHI SYMBOL|4PI SYMBOL|4RHO SYMBOL|4SMALL A|5ALPHA|5B|5BETA|5C",
  "5CHI|5D|5DELTA|5E|5EPSILON|5ETA|5F|5FINAL SIGMA|5G|5GAMMA|5H|5I|5IOTA|5J|5K|5KAPPA|5L|5LAMDA|5M",
  "5MU|5N|5NU|5O|5OMEGA|5OMICRON|5P|5PHI|5PI|5PSI|5Q|5R|5RHO|5S|5SIGMA|5T|5TAU|5THETA|5U|5UPSILON",
  "5V|5W|5X|5XI|5Y|5Z|5ZETA|4THETA SYMBOL|3KAPPA SYMBOL|3NABLA|3PARTIAL DIFFERENTIAL|3PHI SYMBOL",
  "3PI SYMBOL|3RHO SYMBOL|3SMALL A|4ALPHA|4B|4BETA|4C|4CHI|4D|4DELTA|4E|4EPSILON|4ETA|4F",
  "4FINAL SIGMA|4G|4GAMMA|4H|4I|4IOTA|4J|4K|4KAPPA|4L|4LAMDA|4M|4MU|4N|4NU|4O|4OMEGA|4OMICRON|4P",
  "4PHI|4PI|4PSI|4Q|4R|4RHO|4S|4SIGMA|4T|4TAU|4THETA|4U|4UPSILON|4V|4W|4X|4XI|4Y|4Z|4ZETA",
  "3THETA SYMBOL|2CAPITAL A|3B|3C|3D|3E|3F|3G|3H|3I|3J|3K|3L|3M|3N|3O|3P|3Q|3R|3S|3T|3U|3V|3W|3X",
  "3Y|3Z|2DIGIT EIGHT|3FIVE|3FOUR|3NINE|3ONE|3SEVEN|3SIX|3THREE|3TWO|3ZERO|2ITALIC CAPITAL A|4B|4C",
  "4D|4E|4F|4G|4H|4I|4J|4K|4L|4M|4N|4O|4P|4Q|4R|4S|4T|4U|4V|4W|4X|4Y|4Z|3SMALL A|4B|4C|4D|4E|4F|4G",
  "4H|4I|4J|4K|4L|4M|4N|4O|4P|4Q|4R|4S|4T|4U|4V|4W|4X|4Y|4Z|2SMALL A|3B|3C|3D|3E|3F|3G|3H|3I|3J|3K",
  "3L|3M|3N|3O|3P|3Q|3R|3S|3T|3U|3V|3W|3X|3Y|3Z|1SCRIPT CAPITAL A|3C|3D|3G|3J|3K|3N|3O|3P|3Q|3S|3T",
  "3U|3V|3W|3X|3Y|3Z|2SMALL A|3B|3C|3D|3F|3H|3I|3J|3K|3L|3M|3N|3P|3Q|3R|3S|3T|3U|3V|3W|3X|3Y|3Z",
  "0MAXIMIZE|0MAYAN NUMERAL EIGHT|2EIGHTEEN|2ELEVEN|2FIFTEEN|2FIVE|2FOUR|2FOURTEEN|2NINE|2NINETEEN",
  "2ONE|2SEVEN|2SEVENTEEN|2SIX|2SIXTEEN|2TEN|2THIRTEEN|2THREE|2TWELVE|2TWO|2ZERO|0MEASURED ANGLE",
  "2OPENING LEFT|2WITH OPEN ARM ENDING IN ARROW POINTING DOWN AND LEFT|bRIGHT|9LEFT AND DOWN|bUP",
  "9RIGHT AND DOWN|bUP|9UP AND LEFT|bRIGHT|1BY|1RIGHT ANGLE WITH DOT|0MEAT ON BONE|0MECHANICAL ARM",
  "1LEG|0MEDEFAIDRIN CAPITAL LETTER A|3AI|3ATIU|3B|3C|3D|3E|3F|3G|3H|3HP|3I|3J|3K|3KP|3L|3M|3N|3NG",
  "3NY|3O|3OE|3P|3Q|3R|3S|3T|3U|3V|3W|3X|3Y|3YU|3Z|1COMMA|1DIGIT EIGHT|2FIVE|2FOUR|2NINE|2ONE",
  "3ALTERNATE FORM|2SEVEN|2SIX|2THREE|3ALTERNATE FORM|2TWO|3ALTERNATE FORM|2ZERO|1EXCLAMATION OH",
  "1FULL STOP|1NUMBER EIGHTEEN|2ELEVEN|2FIFTEEN|2FOURTEEN|2NINETEEN|2SEVENTEEN|2SIXTEEN|2TEN",
  "2THIRTEEN|2TWELVE|1SMALL LETTER A|3AI|3ATIU|3B|3C|3D|3E|3F|3G|3H|3HP|3I|3J|3K|3KP|3L|3M|3N|3NG",
  "3NY|3O|3OE|3P|3Q|3R|3S|3T|3U|3V|3W|3X|3Y|3YU|3Z|1SYMBOL AIVA|0MEDIEVAL COMMA|1EXCLAMATION MARK",
  "1QUESTION MARK|0MEDIUM BLACK CIRCLE|1BOLD WHITE CIRCLE|1EIGHT POINTED BLACK STAR",
  "2SPOKED ASTERISK|1FIVE SPOKED ASTERISK|1FLATTENED LEFT PARENTHESIS ORNAMENT",
  "2RIGHT PARENTHESIS ORNAMENT|1FOUR POINTED BLACK STAR|3PINWHEEL STAR|1GREEK CROSS",
  "1LEFT CURLY BRACKET ORNAMENT|2PARENTHESIS ORNAMENT|1LEFT-POINTING ANGLE BRACKET ORNAMENT",
  "1MATHEMATICAL SPACE|1RIGHT CURLY BRACKET ORNAMENT|2PARENTHESIS ORNAMENT",
  "1RIGHT-POINTING ANGLE BRACKET ORNAMENT|1SALTIRE|1SHADE|1SIX POINTED BLACK STAR|2SPOKED ASTERISK",
  "1SMALL WHITE CIRCLE|1THREE POINTED BLACK STAR|3PINWHEEL STAR|1VERTICAL BAR|1WHITE CIRCLE",
  "2SQUARE|0MEETEI MAYEK AHANG KHUDAM|2ANJI|2APUN IYEK|2CHEIKHAN|2CHEIKHEI|2DIGIT EIGHT|3FIVE",
  "3FOUR|3NINE|3ONE|3SEVEN|3SIX|3THREE|3TWO|3ZERO|2LETTER ATIYA|3BA|3BHAM|3CHA|3CHIL|3DDA|3DDHA",
  "3DHOU|3DIL|3E|3GHOU|3GOK|3HUK|3I|4LONSUM|3JHAM|3JIL|3KHOU|3KOK|4LONSUM|3LAI|4LONSUM|3MIT",
  "4LONSUM|3NA|4LONSUM|3NGOU|4LONSUM|3NNA|3NYA|3O|3PA|4LONSUM|3PHAM|3RAI|3SAM|3SHA|3SSA|3THOU|3TIL",
  "4LONSUM|3TTA|3TTHA|3UN|3WAI|3YANG|2LUM IYEK|2SYLLABLE REPETITION MARK|2VIRAMA|2VOWEL SIGN AAI",
  "4AAU|4ANAP|4AU|4CHEINAP|4II|4INAP|4NUNG|4ONAP|4SOUNAP|4UNAP|4UU|4VISARGA|4YENAP",
  "2WORD REPETITION MARK|0MELON|0MELTING FACE|0MEMO",
  "0MENDE KIKAKUI COMBINING NUMBER HUNDRED THOUSANDS|4HUNDREDS|4MILLIONS|4TEENS|4TEN THOUSANDS",
  "4TENS|4THOUSANDS|2DIGIT EIGHT|3FIVE|3FOUR|3NINE|3ONE|3SEVEN|3SIX|3THREE|3TWO|2SYLLABLE M001 KI",
  "3M002 KA|3M003 KU|3M004 WI|3M005 WA|3M006 WU|3M007 MIN|3M008 MAN|3M009 MUN|3M010 BI|3M011 BA",
  "3M012 BU|3M013 I|3M014 A|3M015 U|3M016 DI|3M017 DA|3M018 DU|3M019 SI|3M020 SA|3M021 SU|3M022 TI",
  "3M023 TA|3M024 TU|3M025 LI|3M026 LA|3M027 LU|3M028 JI|3M029 JA|3M030 JU|3M031 YI|3M032 YA",
  "3M033 YU|3M034 FI|3M035 FA|3M036 FU|3M037 NIN|3M038 NAN|3M039 NUN|3M040 HEE|3M041 HA|3M042 HOO",
  "3M043 NGGA|3M044 KPEE|3M045 WO|3M046 HUAN|3M047 MBEE|3M048 KO|3M049 WVA|3M050 PU|3M051 PE",
  "3M052 HEN|3M053 HIN|3M054 LOO|3M055 TE|3M056 GBA|3M057 NGON|3M058 NYAN|3M059 MEN|3M060 NYON",
  "3M061 WVI|3M062 MBA|3M063 JO|3M064 NDO|3M065 KEE|3M066 PO|3M067 NDOO|3M068 PI|3M069 TO",
  "3M070 GBO|3M071 GBOO|3M072 MBE|3M073 LE|3M074 KPU|3M075 FE|3M076 KOO|3M077 VO|3M078 FEE",
  "3M079 SO|3M080 YE|3M081 PEE|3M082 NGGU|3M083 HEEI|3M084 LEE|3M085 VE|3M086 LONG NGGE|3M087 HUN",
  "3M088 FO|3M089 DEE|3M090 NGGI|3M091 TEE|3M092 KPA|3M093 GBEE|3M094 MON|3M095 KE|3M096 HE",
  "3M097 BE|3M098 NYEN|3M099 PA|3M100 E|3M101 FAN|3M102 POO|3M103 BOO|3M104 TOO|3M105 LONG MBOO",
  "3M106 LONG NGGOO|3M107 GBE|3M108 KPE|3M109 YEE|3M110 LONG LE|3M111 GA|3M112 KPOO|3M113 JE",
  "3M114 WOO|3M115 NGGEE|3M116 SE|3M117 NEN|3M118 WE|3M119 NDE|3M120 NGGO|3M121 YO|3M122 MBU",
  "3M123 NDI|3M124 GBI|3M125 NDU|3M126 WEE|3M127 NGGUA|3M128 HOOU|3M129 NDA|3M130 HAN|3M131 IN",
  "3M132 KPI|3M133 FOO|3M134 NJOO|3M135 IN|3M136 SOO|3M137 EI|3M138 BO|3M139 WVE|3M140 HO",
  "3M141 YOO|3M142 LONG MBO|3M143 WEI|3M144 VOO|3M145 MBI|3M146 NGGE|3M147 O|3M148 GBU|3M149 NJEE",
  "3M150 BEE|3M151 VU|3M152 NJA|3M153 LO|3M154 MUAN|3M155 GI|3M156 NGGOO|3M157 JEE|3M158 KPO",
  "3M159 NGGAA|3M160 JOO|3M161 LONG MBE|3M162 SEE|3M163 EE|3M164 NYIN|3M165 OO|3M166 GUEI",
  "3M167 GUAN|3M168 GU|3M169 NON|3M170 NYUN|3M171 RA|3M172 MBOO|3M173 VEE|3M174 MBO|3M175 LONG JO",
  "3M176 HI|3M177 NGUAN|3M178 EN|3M179 KUA|3M180 DOO|3M181 DO|3M182 VI|3M183 LONG NGGO|3M184 NGEN",
  "3M185 VA|3M186 HU|3M187 MBUU|3M188 MBEE|3M189 MUEN|3M190 GEE|3M191 NDEE|3M192 NJU|3M193 HON",
  "3M194 WUI|3M195 AN|3M196 SIA|3M197 FUA|0MENORAH WITH NINE BRANCHES|0MENS SYMBOL|0MERCURY",
  "0MEROITIC CURSIVE FRACTION EIGHT TWELFTHS|3ELEVEN TWELFTHS|3FIVE TWELFTHS|3FOUR TWELFTHS",
  "3NINE TWELFTHS|3ONE HALF|4TWELFTH|3SEVEN TWELFTHS|3SIX TWELFTHS|3TEN TWELFTHS|3THREE TWELFTHS",
  "3TWO TWELFTHS|2LETTER A|3ARCHAIC SA|3BA|3DA|3E|3HHA|3I|3KA|3KHA|3LA|3MA|3NA|3NE|3O|3PA|3QA|3RA",
  "3SA|3SE|3TA|3TE|3TO|3WA|3YA|2LOGOGRAM IMN|3RMT|2NUMBER EIGHT|4HUNDRED|5THOUSAND|4THOUSAND",
  "3EIGHTY THOUSAND|3FIFTY|4THOUSAND|3FIVE|4HUNDRED|5THOUSAND|4THOUSAND|3FORTY|4THOUSAND|3FOUR",
  "4HUNDRED|5THOUSAND|4THOUSAND|3NINE|4HUNDRED|5THOUSAND|4THOUSAND|3NINETY THOUSAND|3ONE|4HUNDRED",
  "5THOUSAND|4THOUSAND|3SEVEN|4HUNDRED|5THOUSAND|4THOUSAND|3SEVENTY|4THOUSAND|3SIX|4HUNDRED",
  "5THOUSAND|4THOUSAND|3SIXTY|4THOUSAND|3TEN|4THOUSAND|3THIRTY|4THOUSAND|3THREE|4HUNDRED|5THOUSAND",
  "4THOUSAND|3TWENTY|4THOUSAND|3TWO|4HUNDRED|5THOUSAND|4THOUSAND|1HIEROGLYPHIC LETTER A|3BA|3BA-2",
  "3DA|3E|3HHA|3I|3KA|3KHA|3LA|3MA|3NA|3NA-2|3NE|3NE-2|3O|3PA|3QA|3RA|3RA-2|3SA|3SA-2|3SE|3TA",
  "3TA-2|3TE|3TE-2|3TO|3WA|3YA|2SYMBOL VIDJ|3VIDJ-2|0MERPERSON|0MESSAGE WAITING|0METRICAL BREVE",
  "1LONG OVER SHORT|3TWO SHORTS|1PENTASEME|1SHORT OVER LONG|1TETRASEME|1TRISEME|1TWO SHORTS JOINED",
  "3OVER LONG|0METRO|0MIAO LETTER AH|2ARCHAIC MA|3NA|3NGA|3ZZA|2BA|2BRI|2DA|2DDA|2DLHA|2DLHYA|2DZA",
  "2DZHA|2DZYI|2DZZA|2FA|2GA|2GHA|2GHHA|2HA|2HHA|2KA|2LA|2LHA|2LHYA|2LYA|2MA|2MHA|2NA",
  "2NASALIZATION|2NGA|2NGHA|2NHA|2NNA|2NNHA|2NYA|2NYHA|2PA|2PLA|2QA|2QGA|2REFORMED TONE-1|3TONE-2",
  "3TONE-4|3TONE-5|3TONE-6|3TONE-8|3TSHA|2RTE|2SA|2SHA|2SSA|2SYI|2TA|2TE|2TLHA|2TLHYA|2TONE-2",
  "2TONE-3|2TONE-4|2TONE-5|2TONE-6|2TONE-7|2TONE-8|2TSA|2TSE|2TSHA|2TSSA|2TTA|2VA|2VFA|2WA|2XA",
  "2YI DZHA|3KA|3NNA|3PA|3TA|3TSA|3TSHA|3TTA|2ZA|2ZHA|2ZSA|2ZSHA|2ZZA|2ZZSA|2ZZSYA|2ZZYA",
  "1SIGN ASPIRATION|2CONSONANT MODIFIER BAR|2REFORMED ASPIRATION|3VOICING|1TONE ABOVE|2BELOW",
  "2RIGHT|2TOP RIGHT|1VOWEL SIGN A|3AA|3AE|3AEE|3AHH|3AI|3AN|3ANG|3AU|3E|3EA|3EI|3EN|3ENG|3ER|3ERR",
  "3I|3IA|3IAN|3IANG|3IE|3IG|3II|3ING|3IO|3IONG|3IU|3N|3NG|3O|3OER|3OEY|3OG|3OO|3OU|3ROUNDED ER",
  "4ERR|3U|3UA|3UAN|3UANG|3UEI|3UI|3UNG|3UOG|3UU|3VW|3W|3WO|3Y|3YI|3YUI|0MICR DASH SYMBOL",
  "1ON US SYMBOL|0MICRO SIGN|0MICROBE|0MICROPHONE|0MICROSCOPE|0MIDDLE DOT",
  "1THIRD WHITE RIGHT POINTING INDEX|0MIDLINE HORIZONTAL ELLIPSIS|0MILITARY HELMET|1MEDAL",
  "0MILKY WAY|0MILL SIGN|0MINIBUS|0MINIDISC|0MINIMIZE|0MINUS SIGN|2IN TRIANGLE|2WITH COMMA ABOVE",
  "3DOT BELOW|3FALLING DOTS|3RISING DOTS|1TILDE|0MINUS-OR-PLUS SIGN|0MINY|0MIRROR|1BALL|0MMSP",
  "0MOBILE PHONE|2OFF|2WITH RIGHTWARDS ARROW AT LEFT|0MODELS|0MODERN PENTATHLON",
  "0MODI ABBREVIATION SIGN|1DANDA|1DIGIT EIGHT|2FIVE|2FOUR|2NINE|2ONE|2SEVEN|2SIX|2THREE|2TWO",
  "2ZERO|1DOUBLE DANDA|1LETTER A|2AA|2AI|2AU|2BA|2BHA|2CA|2CHA|2DA|2DDA|2DDHA|2DHA|2E|2GA|2GHA|2HA",
  "2I|2II|2JA|2JHA|2KA|2KHA|2LA|2LLA|2MA|2NA|2NGA|2NNA|2NYA|2O|2PA|2PHA|2RA|2SA|2SHA|2SSA|2TA|2THA",
  "2TTA|2TTHA|2U|2UU|2VA|2VOCALIC L|3LL|3R|3RR|2YA|1SIGN ANUSVARA|2ARDHACANDRA|2HUVA|2VIRAMA",
  "2VISARGA|1VOWEL SIGN AA|3AI|3AU|3E|3I|3II|3O|3U|3UU|3VOCALIC L|4LL|4R|4RR",
  "0MODIFIER BREVE WITH INVERTED BREVE|1LETTER ACUTE ACCENT|2ALVEOLAR CLICK|2APOSTROPHE",
  "2BEGIN HIGH TONE|3LOW TONE|2BILABIAL CLICK|2CAPITAL A|3AE|3B|3BARRED B|3C|3D|3E|3F|3G|3H",
  "4WITH STROKE|3I|3J|3K|3L|3M|3N|3O|3OU|3P|3Q|3R|3REVERSED E|4N|3T|3U|3V|3W",
  "2CENTRED LEFT HALF RING|3RIGHT HALF RING|2CHINESE TONE YANG PING|5QU|5RU|5SHANG|4YIN PING|5QU",
  "5RU|5SHANG|2CIRCUMFLEX ACCENT|2COLON|2CROSS ACCENT|2CYRILLIC EN|3HARD SIGN|3SOFT SIGN",
  "2DENTAL CLICK|2DOT HORIZONTAL BAR|3SLASH|3VERTICAL BAR|2DOUBLE APOSTROPHE|3PRIME",
  "2DOWN ARROWHEAD|3TACK|2END HIGH TONE|3LOW TONE|2EXTRA-HIGH DOTTED LEFT-STEM TONE BAR|4TONE BAR",
  "3LEFT-STEM TONE BAR|3TONE BAR|2EXTRA-LOW DOTTED LEFT-STEM TONE BAR|4TONE BAR",
  "3LEFT-STEM TONE BAR|3TONE BAR|2GEORGIAN NAR|2GLOTTAL STOP|4WITH STROKE|2GRAVE ACCENT",
  "2HALF TRIANGULAR COLON|2HIGH DOTTED LEFT-STEM TONE BAR|4TONE BAR|3LEFT-STEM TONE BAR|3TONE BAR",
  "2LATERAL CLICK|2LEFT ARROWHEAD|3HALF RING|3TACK|2LOW ACUTE ACCENT|3CIRCUMFLEX ACCENT",
  "3DOTTED LEFT-STEM TONE BAR|4TONE BAR|3DOWN ARROWHEAD|3GRAVE ACCENT|3INVERTED EXCLAMATION MARK",
  "3LEFT ARROW|4ARROWHEAD|3LEFT-STEM TONE BAR|3MACRON|3RIGHT ARROWHEAD|3RING|3TILDE|3TONE BAR",
  "3UP ARROWHEAD|3VERTICAL LINE|2LOWER RIGHT CORNER ANGLE|2MACRON|2MID DOTTED LEFT-STEM TONE BAR",
  "4TONE BAR|3LEFT-STEM TONE BAR|3TONE BAR|2MIDDLE DOUBLE ACUTE ACCENT|4GRAVE ACCENT|3GRAVE ACCENT",
  "2MINUS SIGN|2OPEN SHELF|2PLUS SIGN|2PRIME|2RAISED COLON|3DOWN ARROW|3EXCLAMATION MARK",
  "3INVERTED EXCLAMATION MARK|3UP ARROW|2RETROFLEX CLICK WITH RETROFLEX HOOK|2REVERSED COMMA",
  "3GLOTTAL STOP|5WITH STROKE|2RHOTIC HOOK|2RIGHT ARROWHEAD|3HALF RING|3TACK|2SHELF",
  "2SHORT EQUALS SIGN|2SMALL A|3AE|3AIN|3ALPHA|3B|4WITH HOOK|3BARRED O|3BETA|3BOTTOM HALF O|3C",
  "4WITH CURL|3CAPITAL AA|4B|4G|5WITH HOOK|4H|4I|5WITH STROKE|4INVERTED R|4L|5WITH BELT|4N|4OE|4R",
  "4U|4Y|3CHI|3CLOSED OMEGA|4REVERSED OPEN E|3D|4WITH HOOK|6AND TAIL|5TAIL|3DELTA|3DEZH DIGRAPH",
  "3DOTLESS J WITH STROKE|7AND HOOK|3DZ DIGRAPH|5WITH CURL|6RETROFLEX HOOK|3E|3ENG|3ESH|3ETH|3EZH",
  "3F|3FENG DIGRAPH|3G|4WITH HOOK|3GAMMA|3GREEK GAMMA|4PHI|3H|4WITH HOOK|5STROKE|3HENG|4WITH HOOK",
  "3I WITH STROKE|3IOTA|3J|4WITH CROSSED-TAIL|3K|3L|4WITH BELT|5INVERTED LAZY S|5MIDDLE TILDE",
  "5PALATAL HOOK|5RETROFLEX HOOK|7AND BELT|3LEZH|4WITH RETROFLEX HOOK|3LIGATURE OE|3LS DIGRAPH",
  "3LZ DIGRAPH|3M|4WITH HOOK|3N WITH LEFT HOOK|5RETROFLEX HOOK|3O|4WITH STROKE|3OPEN E|4O|3P|3PHI",
  "3Q|3R|4WITH FISHHOOK|5TAIL|3RAMS HORN|3REVERSED E|4GLOTTAL STOP|4OPEN E|3S|4WITH CURL|5HOOK",
  "3SCHWA|3SCRIPT G|3SIDEWAYS U|3T|4WITH PALATAL HOOK|5RETROFLEX HOOK|3TC DIGRAPH WITH CURL",
  "3TESH DIGRAPH|3THETA|3TOP HALF O|3TS DIGRAPH|5WITH RETROFLEX HOOK|3TURNED A|4AE|4ALPHA|4H|4I|4M",
  "5WITH LONG LEG|4OPEN E|4R|5WITH HOOK|6LONG LEG|8AND RETROFLEX HOOK|4V|4W|4Y|5WITH BELT|3U|4BAR",
  "4WITH LEFT HOOK|3UPSILON|3V|4WITH HOOK|5RIGHT HOOK|3W|3X|3Y|3Z|4WITH CURL|5RETROFLEX HOOK",
  "2STRESS AND HIGH TONE|4LOW TONE|2SUPERSCRIPT HALF TRIANGULAR COLON|3TRIANGULAR COLON",
  "2TRIANGULAR COLON|2TURNED COMMA|2UNASPIRATED|2UP ARROWHEAD|3TACK|2US|2VERTICAL LINE|2VOICING",
  "2YANG DEPARTING TONE MARK|2YIN DEPARTING TONE MARK|0MODULO TWO SUM|0MONEY BAG|1WITH WINGS",
  "0MONEY-MOUTH FACE|0MONGOLIAN BIRGA|2WITH DOUBLE ORNAMENT|3ORNAMENT|1COLON|1COMMA|1DIGIT EIGHT",
  "2FIVE|2FOUR|2NINE|2ONE|2SEVEN|2SIX|2THREE|2TWO|2ZERO|1DOUBLE BIRGA WITH ORNAMENT|1ELLIPSIS",
  "1FOUR DOTS|1FREE VARIATION SELECTOR FOUR|4ONE|4THREE|4TWO|1FULL STOP|1INVERTED BIRGA",
  "3WITH DOUBLE ORNAMENT|1LETTER A|2ALI GALI A|4AH|4ANUSVARA ONE|4BALUDA|4CA|4DA|4DAGALGA|4DAMARU",
  "4DDA|4HALF U|5YA|4I|4INVERTED UBADAMA|4KA|4NGA|4NNA|4PA|4PHA|4SSA|4TA|4THREE BALUDA|4TTA|4TTHA",
  "4UBADAMA|4VISARGA ONE|4ZA|4ZHA|2ANG|2BA|2CHA|3WITH TWO DOTS|2CHI|2DA|2E|2EE|2FA|2GA|2HAA|2I|2JA",
  "2KA|2KHA|2LA|2LHA|2MA|2MANCHU ALI GALI BHA|5CA|5CYA|5DDHA|5DHA|5GHA|5JHA|5LHA|5NGA|5SSA|5TA",
  "5TTA|5ZA|5ZHA|3FA|3I|3KA|3RA|3ZHA|2NA|2O|2OE|2PA|2QA|2RA|2SA|2SHA|2SIBE ANG|3CHA|3DA|3E|3FA|3GA",
  "3GAA|3HA|3HAA|3I|3IY|3JA|3KA|3PA|3RAA|3SHA|3TA|3TSA|3U|3UE|3ZA|3ZHA|2TA|2TODO ALI GALI TA|5ZHA",
  "3ANG|3BA|3CHA|3DA|3DZA|3E|3GA|3GAA|3HAA|3I|3JA|3JIA|3KA|3LONG VOWEL SIGN|3MA|3NIA|3O|3OE|3PA",
  "3QA|3TA|3TSA|3U|3UE|3WA|3YA|2TSA|2U|2UE|2WA|2YA|2ZA|2ZHI|2ZRA|1MANCHU COMMA|2FULL STOP|1NIRUGU",
  "1ROTATED BIRGA|3WITH DOUBLE ORNAMENT|4ORNAMENT|1SIBE SYLLABLE BOUNDARY MARKER|1SWIRL BIRGA",
  "3WITH DOUBLE ORNAMENT|4ORNAMENT|1TODO SOFT HYPHEN|1TRIPLE BIRGA WITH ORNAMENT",
  "1TURNED SWIRL BIRGA WITH DOUBLE ORNAMENT|1VOWEL SEPARATOR|0MONKEY|1FACE|0MONOGRAM FOR EARTH",
  "2YANG|2YIN|0MONORAIL|0MONOSTABLE SYMBOL|0MOOD BUBBLE|0MOON CAKE|1VIEWING CEREMONY|0MOSQUE",
  "0MOSQUITO|0MOTHER CHRISTMAS|0MOTOR BOAT|1SCOOTER|0MOTORIZED WHEELCHAIR|0MOTORWAY|0MOUNT FUJI",
  "0MOUNTAIN|1BICYCLIST|1CABLEWAY|1RAILWAY|0MOUSE|1FACE|1TRAP|0MOUTH|0MOVIE CAMERA|0MOYAI",
  "0MRO DANDA|1DIGIT EIGHT|2FIVE|2FOUR|2NINE|2ONE|2SEVEN|2SIX|2THREE|2TWO|2ZERO|1DOUBLE DANDA",
  "1LETTER A|2BA|2CHU|2DA|2DAI|2E|2EA|2HAI|2HAO|2KEAAE|2KHAI|2KO|2LA|2LAN|2MAEM|2MIM|2NGI|2NIN|2O",
  "2OL|2OO|2PA|2PHI|2RI|2RO|2SHI|2TA|2TEK|2THEA|2WA|2YO|0MUCH GREATER-THAN|1LESS-THAN",
  "0MULTANI LETTER A|2BA|2BHA|2CA|2CHA|2DA|2DDA|2DDDA|2DDHA|2DHA|2E|2GA|2GHA|2HA|2I|2JA|2JJA|2KA",
  "2KHA|2LA|2MA|2NA|2NNA|2NYA|2PA|2PHA|2RA|2RHA|2RRA|2SA|2TA|2THA|2TTA|2TTHA|2U|2VA|2YA",
  "1SECTION MARK|0MULTIMAP|0MULTIPLE MUSICAL NOTES|0MULTIPLICATION SIGN|2IN DOUBLE CIRCLE",
  "3LEFT HALF CIRCLE|3RIGHT HALF CIRCLE|3TRIANGLE|2WITH DOT ABOVE|3UNDERBAR|1X|0MULTISET",
  "1MULTIPLICATION|1UNION|0MUSHROOM|0MUSIC FLAT SIGN|1NATURAL SIGN|1SHARP SIGN|0MUSICAL KEYBOARD",
  "2WITH JACKS|1NOTE|1SCORE|1SYMBOL ARPEGGIATO DOWN|3UP|2BEGIN BEAM|3PHRASE|3SLUR|3TIE|2BRACE",
  "2BRACKET|2BREATH MARK|2BREVE|2BREVIS|3REST|2C CLEF|2CAESURA|2CIRCLE X NOTEHEAD|2CLIMACUS",
  "2CLIVIS|2CLUSTER NOTEHEAD BLACK|4WHITE|2CODA|2COMBINING ACCENT|3ACCENT-STACCATO",
  "3AUGMENTATION DOT|3BEND|3DOIT|3DOUBLE TONGUE|3DOWN BOW|3FLAG-1|3FLAG-2|3FLAG-3|3FLAG-4|3FLAG-5",
  "3FLIP|3HARMONIC|3LOURE|3MARCATO|3MARCATO-STACCATO|3RIP|3SMEAR|3SNAP PIZZICATO",
  "3SPRECHGESANG STEM|3STACCATISSIMO|3STACCATO|3STEM|3TENUTO|3TREMOLO-1|3TREMOLO-2|3TREMOLO-3",
  "3TRIPLE TONGUE|3UP BOW|2COMMON TIME|2CRESCENDO|2CROIX|2CUT TIME|2DA CAPO|2DAL SEGNO|2DAMP|3ALL",
  "2DASHED BARLINE|2DECRESCENDO|2DEGREE SLASH|2DOUBLE BARLINE|3FLAT|3SHARP|2DRUM CLEF-1|3CLEF-2",
  "2EIGHTH NOTE|3REST|2END BEAM|3OF STIMME|3PHRASE|3SLUR|3TIE|2F CLEF|4OTTAVA ALTA|5BASSA|2FERMATA",
  "3BELOW|2FINAL BARLINE|2FINGERED TREMOLO-1|3TREMOLO-2|3TREMOLO-3|2FIVE-LINE STAFF|2FLAT DOWN|3UP",
  "2FORTE|2FOUR-LINE STAFF|2FOUR-STRING FRETBOARD|2FUSA BLACK|3WHITE|2G CLEF|4OTTAVA ALTA|5BASSA",
  "2GLISSANDO DOWN|3UP|2GRACE NOTE NO SLASH|4SLASH|2GREGORIAN C CLEF|3F CLEF|2HALF NOTE",
  "3PEDAL MARK|3REST|2HAUPTSTIMME|2INVERTED TURN|2KIEVAN C CLEF|3EIGHTH NOTE STEM DOWN|6UP",
  "3END OF PIECE|3FINAL NOTE|3FLAT SIGN|3HALF NOTE|3QUARTER NOTE STEM DOWN|6UP|3RECITATIVE MARK",
  "3WHOLE NOTE|2KORON|2LEFT REPEAT SIGN|2LONGA|3IMPERFECTA REST|3PERFECTA REST|2MAXIMA|2MEZZO",
  "2MINIMA|3BLACK|3REST|2MOON NOTEHEAD BLACK|4WHITE|2MULTI REST|2MULTIPLE MEASURE REST",
  "2NATURAL DOWN|3UP|2NEBENSTIMME|2NOTEHEAD BLACK|2NULL NOTEHEAD|2ONE HUNDRED TWENTY-EIGHTH NOTE",
  "5REST|2ONE-LINE STAFF|2ORNAMENT STROKE-1|3STROKE-10|3STROKE-11|3STROKE-2|3STROKE-3|3STROKE-4",
  "3STROKE-5|3STROKE-6|3STROKE-7|3STROKE-8|3STROKE-9|2OTTAVA ALTA|3BASSA|2PARENTHESIS NOTEHEAD",
  "2PEDAL MARK|3UP MARK|2PES SUBPUNCTIS|2PIANO|2PLUS NOTEHEAD|2PODATUS|2PORRECTUS|3FLEXUS",
  "2QUARTER NOTE|3REST|3TONE FLAT|4SHARP|2QUINDICESIMA ALTA|3BASSA|2REPEAT DOTS|2REPEATED FIGURE-1",
  "3FIGURE-2|3FIGURE-3|2REVERSE FINAL BARLINE|2RIGHT REPEAT SIGN|2RINFORZANDO|2SCANDICUS|3FLEXUS",
  "2SEGNO|2SEMIBREVIS BLACK|3REST|3WHITE|2SEMIMINIMA BLACK|3REST|3WHITE|2SHARP DOWN|3UP",
  "2SHORT BARLINE|2SINGLE BARLINE|2SIX-LINE STAFF|2SIX-STRING FRETBOARD|2SIXTEENTH NOTE|3REST",
  "2SIXTY-FOURTH NOTE|3REST|2SORI|2SQUARE B|3NOTEHEAD BLACK|4WHITE|2SUBITO",
  "2TEMPUS IMPERFECTUM CUM PROLATIONE IMPERFECTA|7DIMINUTION-1|7DIMINUTION-2|7DIMINUTION-3",
  "6PERFECTA|3PERFECTUM CUM PROLATIONE IMPERFECTA|6PERFECTA|7DIMINUTION-1|2THIRTY-SECOND NOTE",
  "3REST|2THREE-LINE STAFF|2TORCULUS|3RESUPINUS|2TR|2TRIANGLE NOTEHEAD DOWN BLACK|5WHITE",
  "4LEFT BLACK|5WHITE|4RIGHT BLACK|5WHITE|4UP BLACK|5RIGHT BLACK|6WHITE|5WHITE",
  "2TRIANGLE-ROUND NOTEHEAD DOWN BLACK|5WHITE|2TURN|3SLASH|3UP|2TWO-LINE STAFF|2VIRGA",
  "2VOID NOTEHEAD|2WHOLE NOTE|3REST|2WITH FINGERNAILS|2X NOTEHEAD|2Z|0MVS|0MW",
  "0MYANMAR CONSONANT SIGN MEDIAL HA|4RA|4WA|4YA|3MON MEDIAL LA|5MA|5NA|3SHAN MEDIAL WA",
  "1DIGIT EIGHT|2FIVE|2FOUR|2NINE|2ONE|2SEVEN|2SIX|2THREE|2TWO|2ZERO|1LETTER A|2AITON RA|2AU|2BA",
  "2BHA|2CA|2CHA|2DA|2DDA|2DDHA|2DHA|2E|2EASTERN PWO KAREN GHWA|5NNA|5YWA|2GA|2GHA|2GREAT SA|2HA",
  "2I|2II|2JA|2JHA|2KA|2KHA|2KHAMTI CA|3CHA|3DDA|3DDHA|3DHA|3FA|3GA|3HA|3HHA|3JA|3JHA|3LLA|3NA",
  "3NYA|3RA|3SA|3TTA|3TTHA|3XA|3ZA|2LA|2LLA|2MA|2MON BBA|3BBE|3E|3JHA|3NGA|2NA|2NGA|2NNA|2NNYA",
  "2NYA|2O|2PA|2PHA|2RA|2RUMAI PALAUNG FA|2SA|2SGAW KAREN SHA|2SHA|2SHAN A|3BA|3BHA|3CA|3CHA|3DA",
  "3FA|3GA|3GHA|3HA|3JHA|3KA|3KHA|3NA|3NNA|3NYA|3PHA|3THA|3ZA|2SHWE PALAUNG CHA|4SHA|2SSA|2TA",
  "2TAI LAING BA|4BHA|4DA|4DDA|4DDHA|4DHA|4FA|4GA|4GHA|4JA|4JHA|4LLA|4NNA|4NYA|2THA|2TTA|2TTHA|2U",
  "2UU|2VOCALIC L|3LL|3R|3RR|2WA|2WESTERN PWO KAREN PWA|5THA|2YA|1LOGOGRAM KHAMTI HM|3OAY|3QN",
  "1MODIFIER LETTER KHAMTI REDUPLICATION|3SHAN REDUPLICATION|1SHAN DIGIT EIGHT|3FIVE|3FOUR|3NINE",
  "3ONE|3SEVEN|3SIX|3THREE|3TWO|3ZERO|1SIGN ANUSVARA|2ASAT|2DOT BELOW|2KHAMTI TONE-1|3TONE-3",
  "2LITTLE SECTION|2PAO KAREN TONE|2RUMAI PALAUNG TONE-5|2SECTION|2SHAN COUNCIL EMPHATIC TONE",
  "4TONE-2|4TONE-3|3SAW|3TONE-2|3TONE-3|3TONE-5|3TONE-6|2TAI LAING TONE-2|4TONE-5|2VIRAMA|2VISARGA",
  "2WESTERN PWO KAREN TONE-1|5TONE-2|5TONE-3|5TONE-4|5TONE-5|1SYMBOL AFOREMENTIONED",
  "2AITON EXCLAMATION|3ONE|3TWO|2COMPLETED|2GENITIVE|2LOCATIVE|2SHAN EXCLAMATION|3ONE",
  "1TAI LAING DIGIT EIGHT|4FIVE|4FOUR|4NINE|4ONE|4SEVEN|4SIX|4THREE|4TWO|4ZERO",
  "1TONE MARK SGAW KAREN HATHI|5KE PHO|1VOWEL SIGN AA|3AI|3AITON A|4AI|3E|4ABOVE|3GEBA KAREN I|3I",
  "3II|3KAYAH EE|4OE|4U|3MON II|4O|3SGAW KAREN EU|3SHAN AA|4E|5ABOVE|4FINAL Y|3TALL AA|3U|3UU",
  "3VOCALIC L|4LL|4R|4RR|3WESTERN PWO KAREN EU|6UE|0N-ARY CIRCLED DOT OPERATOR|2PLUS OPERATOR",
  "2TIMES OPERATOR|1COPRODUCT|1INTERSECTION|1LOGICAL AND|2OR|1PRODUCT",
  "1SQUARE INTERSECTION OPERATOR|2UNION OPERATOR|1SUMMATION|1TIMES OPERATOR|1UNION",
  "2OPERATOR WITH DOT|4PLUS|1WHITE VERTICAL BAR|0NABATAEAN CRUCIFORM NUMBER FOUR|1LETTER ALEPH",
  "2AYIN|2BETH|2DALETH|2FINAL ALEPH|3BETH|3HE|3KAPH|3LAMEDH|3MEM|3NUN|3SHIN|3YODH|2GIMEL|2HE|2HETH",
  "2KAPH|2LAMEDH|2MEM|2NUN|2PE|2QOPH|2RESH|2SADHE|2SAMEKH|2SHIN|2TAW|2TETH|2WAW|2YODH|2ZAYIN",
  "1NUMBER FIVE|2FOUR|2ONE|3HUNDRED|2TEN|2THREE|2TWENTY|2TWO|0NABLA|0NAIL POLISH|0NAIRA SIGN|0NAK",
  "0NAME BADGE|0NAND|0NANDINAGARI HEADSTROKE|1LETTER A|2AA|2AI|2AU|2BA|2BHA|2CA|2CHA|2DA|2DDA",
  "2DDHA|2DHA|2E|2GA|2GHA|2HA|2I|2II|2JA|2JHA|2KA|2KHA|2LA|2LLA|2MA|2NA|2NGA|2NNA|2NYA|2O|2PA|2PHA",
  "2RA|2RRA|2SA|2SHA|2SSA|2TA|2THA|2TTA|2TTHA|2U|2UU|2VA|2VOCALIC R|3RR|2YA|1SIGN ANUSVARA",
  "2AVAGRAHA|2SIDDHAM|2VIRAMA|2VISARGA|1VOWEL SIGN AA|3AI|3AU|3E|3I|3II|3O|3PRISHTHAMATRA E|3U|3UU",
  "3VOCALIC R|4RR|0NARROW NO-BREAK SPACE|0NATIONAL DIGIT SHAPES|1PARK|0NAUSEATED FACE",
  "0NAZAR AMULET|0NBH|0NBSP|0NECKTIE|0NEGATED DOUBLE VERTICAL BAR DOUBLE RIGHT TURNSTILE",
  "0NEGATIVE ACKNOWLEDGE|1CIRCLED DIGIT ZERO|2LATIN CAPITAL LETTER A|5B|5C|5D|5E|5F|5G|5H|5I|5J|5K",
  "5L|5M|5N|5O|5P|5Q|5R|5S|5T|5U|5V|5W|5X|5Y|5Z|2NUMBER EIGHTEEN|3ELEVEN|3FIFTEEN|3FOURTEEN",
  "3NINETEEN|3SEVENTEEN|3SIXTEEN|3THIRTEEN|3TWELVE|3TWENTY|2SQUARE|2TRIANGLE|1DIAGONAL CROSS",
  "2DIAMOND|2MIDDLE RIGHT TO LOWER CENTRE|1SQUARED AB|2CROSS MARK|2IC|2LATIN CAPITAL LETTER A|5B",
  "5C|5D|5E|5F|5G|5H|5I|5J|5K|5L|5M|5N|5O|5P|5Q|5R|5S|5T|5U|5V|5W|5X|5Y|5Z|2PA|2QUESTION MARK|2SA",
  "2WC|0NEITHER A SUBSET OF NOR EQUAL TO|2SUPERSET OF NOR EQUAL TO",
  "1APPROXIMATELY NOR ACTUALLY EQUAL TO|1GREATER-THAN NOR EQUAL TO|3EQUIVALENT TO|3LESS-THAN",
  "1LESS-THAN NOR EQUAL TO|3EQUIVALENT TO|3GREATER-THAN|0NEL|0NEPTUNE|1FORM TWO|0NERD FACE|0NESSUS",
  "0NEST WITH EGGS|0NESTING DOLLS|0NEUTER|0NEUTRAL CHESS BISHOP|3ROTATED NINETY DEGREES",
  "4TWO HUNDRED SEVENTY DEGREES|2EQUIHOPPER|3ROTATED NINETY DEGREES|2KING|3ROTATED NINETY DEGREES",
  "4TWO HUNDRED SEVENTY DEGREES|2KNIGHT|3ROTATED FORTY-FIVE DEGREES|4NINETY DEGREES",
  "4ONE HUNDRED THIRTY-FIVE DEGREES|4THREE HUNDRED FIFTEEN DEGREES|4TWO HUNDRED SEVENTY DEGREES",
  "6TWENTY-FIVE DEGREES|2PAWN|3ROTATED NINETY DEGREES|4TWO HUNDRED SEVENTY DEGREES|2QUEEN",
  "3ROTATED NINETY DEGREES|4TWO HUNDRED SEVENTY DEGREES|2ROOK|3ROTATED NINETY DEGREES",
  "4TWO HUNDRED SEVENTY DEGREES|2TURNED BISHOP|3KING|3KNIGHT|3PAWN|3QUEEN|3ROOK|1FACE|0NEW LINE",
  "1MOON SYMBOL|2WITH FACE|1SHEQEL SIGN|1TAI LUE DIGIT EIGHT|4FIVE|4FOUR|4NINE|4ONE|4SEVEN|4SIX",
  "4THREE|4TWO|4ZERO|3LETTER FINAL B|5D|5K|5M|5N|5NG|5V|4HIGH BA|5DA|5FA|5HA|5KA|5KVA|5LA|5MA|5NA",
  "5NGA|5PA|5PHA|5QA|5SA|5SUA|5TA|5THA|5TSA|5VA|5XA|5XVA|5YA|4LOW BA|5DA|5FA|5HA|5KA|5KVA|5LA|5MA",
  "5NA|5NGA|5PA|5PHA|5QA|5SA|5SUA|5TA|5THA|5TSA|5VA|5XA|5XVA|5YA|3SIGN LAE|4LAEV|3THAM DIGIT ONE",
  "3TONE MARK-1|4MARK-2|3VOWEL SIGN AA|5AAY|5AE|5AY|5E|5II|5IY|5O|5OA|5OAY|5OY|5U|5UE|5UEY|5UU|5UY",
  "5VOWEL SHORTENER|0NEWA ABBREVIATION SIGN|1COMMA|1DANDA|1DIGIT EIGHT|2FIVE|2FOUR|2NINE|2ONE",
  "2SEVEN|2SIX|2THREE|2TWO|2ZERO|1DOUBLE COMMA|2DANDA|1GAP FILLER|1INSERTION SIGN|1LETTER A|2AA",
  "2AI|2AU|2BA|2BHA|2CA|2CHA|2DA|2DDA|2DDHA|2DHA|2E|2GA|2GHA|2HA|2I|2II|2JA|2JHA|2KA|2KHA|2LA|2LHA",
  "2MA|2MHA|2NA|2NGA|2NGHA|2NHA|2NNA|2NYA|2NYHA|2O|2PA|2PHA|2RA|2RHA|2SA|2SHA|2SSA|2TA|2THA|2TTA",
  "2TTHA|2U|2UU|2VEDIC ANUSVARA|2VOCALIC L|3LL|3R|3RR|2WA|2YA|1OM|1PLACEHOLDER MARK|1SANDHI MARK",
  "1SIDDHI|1SIGN ANUSVARA|2AVAGRAHA|2CANDRABINDU|2FINAL ANUSVARA|2JIHVAMULIYA|2NUKTA|2UPADHMANIYA",
  "2VIRAMA|2VISARGA|1VOWEL SIGN AA|3AI|3AU|3E|3I|3II|3O|3U|3UU|3VOCALIC L|4LL|4R|4RR|0NEWLINE LEFT",
  "1RIGHT|0NEWSPAPER|0NEXT LINE|1PAGE|0NIGHT WITH STARS|0NINJA|0NKO COMBINING DOUBLE DOT ABOVE",
  "2LONG DESCENDING TONE|3HIGH TONE|3LOW TONE|3RISING TONE|2NASALIZATION MARK|2SHORT HIGH TONE",
  "3LOW TONE|3RISING TONE|1COMMA|1DANTAYALAN|1DIGIT EIGHT|2FIVE|2FOUR|2NINE|2ONE|2SEVEN|2SIX",
  "2THREE|2TWO|2ZERO|1DOROME SIGN|1EXCLAMATION MARK|1HIGH TONE APOSTROPHE|1LAJANYALAN|1LETTER A",
  "2BA|2CHA|2DA|2DAGBASINNA|2E|2EE|2FA|2GBA|2HA|2I|2JA|2JONA CHA|3JA|3RA|2KA|2LA|2MA|2N|2NA",
  "3WOLOSO|2NYA|3WOLOSO|2O|2OO|2PA|2RA|2RRA|2SA|2TA|2U|2WA|2YA|1LOW TONE APOSTROPHE",
  "1SYMBOL GBAKURUNEN|2OO DENNEN|1TAMAN SIGN|0NL|0NNBSP|0NO BICYCLES|1BREAK HERE|1ENTRY|2SIGN",
  "1MOBILE PHONES|1ONE UNDER EIGHTEEN SYMBOL|1PEDESTRIANS|1PIRACY|1SMOKING SYMBOL|0NO-BREAK SPACE",
  "0NOMINAL DIGIT SHAPES|0NOMISMA SIGN|0NON-BREAKING HYPHEN|0NON-POTABLE WATER SYMBOL|0NONFORKING",
  "0NOR|0NORDIC MARK SIGN|0NORMAL SUBGROUP OF|3OR EQUAL TO|0NORTH EAST AND SOUTH WEST ARROW|2ARROW",
  "3AND SOUTH EAST ARROW|3CROSSING NORTH WEST ARROW|4SOUTH EAST ARROW|3WITH HOOK|2BLACK ARROW",
  "2DOUBLE ARROW|2POINTING BUD|3LEAF|3VINE LEAF|2SANS-SERIF ARROW|2TRIANGLE-HEADED ARROW|4TO BAR",
  "2WHITE ARROW|1INDIC FRACTION ONE EIGHTH|4HALF|4QUARTER|4SIXTEENTH|3THREE QUARTERS|4SIXTEENTHS",
  "2PLACEHOLDER MARK|2QUANTITY MARK|2QUARTER MARK|2RUPEE MARK|1WEST AND SOUTH EAST ARROW|2ARROW",
  "3AND NORTH EAST ARROW|3CROSSING NORTH EAST ARROW|3TO CORNER|4LONG BAR|3WITH HOOK|2BLACK ARROW",
  "2DOUBLE ARROW|2POINTING BUD|3LEAF|3VINE LEAF|2SANS-SERIF ARROW|2TRIANGLE-HEADED ARROW|4TO BAR",
  "2WHITE ARROW|0NORTHEAST-POINTING AIRPLANE|0NOSE|0NOT A SUBSET OF|2SUPERSET OF|1ALMOST EQUAL TO",
  "1AN ELEMENT OF|1ASYMPTOTICALLY EQUAL TO|1CHECK MARK|1EQUAL TO|1EQUIVALENT TO|1GREATER-THAN",
  "1IDENTICAL TO|1LESS-THAN|1NORMAL SUBGROUP OF|4OR EQUAL TO|1PARALLEL TO|1SIGN",
  "1SQUARE IMAGE OF OR EQUAL TO|2ORIGINAL OF OR EQUAL TO|1TILDE|1TRUE",
  "0NOTCHED LEFT SEMICIRCLE WITH THREE DOTS|1LOWER RIGHT-SHADOWED WHITE RIGHTWARDS ARROW",
  "1RIGHT SEMICIRCLE WITH THREE DOTS|1UPPER RIGHT-SHADOWED WHITE RIGHTWARDS ARROW|0NOTE|1PAD|1PAGE",
  "0NOTEBOOK|1WITH DECORATIVE COVER|0NUL|0NULL|0NUMBER EIGHTEEN FULL STOP|1ELEVEN FULL STOP",
  "1FIFTEEN FULL STOP|1FOURTEEN FULL STOP|1NINETEEN FULL STOP|1SEVENTEEN FULL STOP|1SIGN",
  "1SIXTEEN FULL STOP|1TEN FULL STOP|1THIRTEEN FULL STOP|1TWELVE FULL STOP|1TWENTY FULL STOP",
  "0NUMERO SIGN|0NUSHU CHARACTER-1B170|1CHARACTER-1B171|1CHARACTER-1B172|1CHARACTER-1B173",
  "1CHARACTER-1B174|1CHARACTER-1B175|1CHARACTER-1B176|1CHARACTER-1B177|1CHARACTER-1B178",
  "1CHARACTER-1B179|1CHARACTER-1B17A|1CHARACTER-1B17B|1CHARACTER-1B17C|1CHARACTER-1B17D",
  "1CHARACTER-1B17E|1CHARACTER-1B17F|1CHARACTER-1B180|1CHARACTER-1B181|1CHARACTER-1B182",
  "1CHARACTER-1B183|1CHARACTER-1B184|1CHARACTER-1B185|1CHARACTER-1B186|1CHARACTER-1B187",
  "1CHARACTER-1B188|1CHARACTER-1B189|1CHARACTER-1B18A|1CHARACTER-1B18B|1CHARACTER-1B18C",
  "1CHARACTER-1B18D|1CHARACTER-1B18E|1CHARACTER-1B18F|1CHARACTER-1B190|1CHARACTER-1B191",
  "1CHARACTER-1B192|1CHARACTER-1B193|1CHARACTER-1B194|1CHARACTER-1B195|1CHARACTER-1B196",
  "1CHARACTER-1B197|1CHARACTER-1B198|1CHARACTER-1B199|1CHARACTER-1B19A|1CHARACTER-1B19B",
  "1CHARACTER-1B19C|1CHARACTER-1B19D|1CHARACTER-1B19E|1CHARACTER-1B19F|1CHARACTER-1B1A0",
  "1CHARACTER-1B1A1|1CHARACTER-1B1A2|1CHARACTER-1B1A3|1CHARACTER-1B1A4|1CHARACTER-1B1A5",
  "1CHARACTER-1B1A6|1CHARACTER-1B1A7|1CHARACTER-1B1A8|1CHARACTER-1B1A9|1CHARACTER-1B1AA",
  "1CHARACTER-1B1AB|1CHARACTER-1B1AC|1CHARACTER-1B1AD|1CHARACTER-1B1AE|1CHARACTER-1B1AF",
  "1CHARACTER-1B1B0|1CHARACTER-1B1B1|1CHARACTER-1B1B2|1CHARACTER-1B1B3|1CHARACTER-1B1B4",
  "1CHARACTER-1B1B5|1CHARACTER-1B1B6|1CHARACTER-1B1B7|1CHARACTER-1B1B8|1CHARACTER-1B1B9",
  "1CHARACTER-1B1BA|1CHARACTER-1B1BB|1CHARACTER-1B1BC|1CHARACTER-1B1BD|1CHARACTER-1B1BE",
  "1CHARACTER-1B1BF|1CHARACTER-1B1C0|1CHARACTER-1B1C1|1CHARACTER-1B1C2|1CHARACTER-1B1C3",
  "1CHARACTER-1B1C4|1CHARACTER-1B1C5|1CHARACTER-1B1C6|1CHARACTER-1B1C7|1CHARACTER-1B1C8",
  "1CHARACTER-1B1C9|1CHARACTER-1B1CA|1CHARACTER-1B1CB|1CHARACTER-1B1CC|1CHARACTER-1B1CD",
  "1CHARACTER-1B1CE|1CHARACTER-1B1CF|1CHARACTER-1B1D0|1CHARACTER-1B1D1|1CHARACTER-1B1D2",
  "1CHARACTER-1B1D3|1CHARACTER-1B1D4|1CHARACTER-1B1D5|1CHARACTER-1B1D6|1CHARACTER-1B1D7",
  "1CHARACTER-1B1D8|1CHARACTER-1B1D9|1CHARACTER-1B1DA|1CHARACTER-1B1DB|1CHARACTER-1B1DC",
  "1CHARACTER-1B1DD|1CHARACTER-1B1DE|1CHARACTER-1B1DF|1CHARACTER-1B1E0|1CHARACTER-1B1E1",
  "1CHARACTER-1B1E2|1CHARACTER-1B1E3|1CHARACTER-1B1E4|1CHARACTER-1B1E5|1CHARACTER-1B1E6",
  "1CHARACTER-1B1E7|1CHARACTER-1B1E8|1CHARACTER-1B1E9|1CHARACTER-1B1EA|1CHARACTER-1B1EB",
  "1CHARACTER-1B1EC|1CHARACTER-1B1ED|1CHARACTER-1B1EE|1CHARACTER-1B1EF|1CHARACTER-1B1F0",
  "1CHARACTER-1B1F1|1CHARACTER-1B1F2|1CHARACTER-1B1F3|1CHARACTER-1B1F4|1CHARACTER-1B1F5",
  "1CHARACTER-1B1F6|1CHARACTER-1B1F7|1CHARACTER-1B1F8|1CHARACTER-1B1F9|1CHARACTER-1B1FA",
  "1CHARACTER-1B1FB|1CHARACTER-1B1FC|1CHARACTER-1B1FD|1CHARACTER-1B1FE|1CHARACTER-1B1FF",
  "1CHARACTER-1B200|1CHARACTER-1B201|1CHARACTER-1B202|1CHARACTER-1B203|1CHARACTER-1B204",
  "1CHARACTER-1B205|1CHARACTER-1B206|1CHARACTER-1B207|1CHARACTER-1B208|1CHARACTER-1B209",
  "1CHARACTER-1B20A|1CHARACTER-1B20B|1CHARACTER-1B20C|1CHARACTER-1B20D|1CHARACTER-1B20E",
  "1CHARACTER-1B20F|1CHARACTER-1B210|1CHARACTER-1B211|1CHARACTER-1B212|1CHARACTER-1B213",
  "1CHARACTER-1B214|1CHARACTER-1B215|1CHARACTER-1B216|1CHARACTER-1B217|1CHARACTER-1B218",
  "1CHARACTER-1B219|1CHARACTER-1B21A|1CHARACTER-1B21B|1CHARACTER-1B21C|1CHARACTER-1B21D",
  "1CHARACTER-1B21E|1CHARACTER-1B21F|1CHARACTER-1B220|1CHARACTER-1B221|1CHARACTER-1B222",
  "1CHARACTER-1B223|1CHARACTER-1B224|1CHARACTER-1B225|1CHARACTER-1B226|1CHARACTER-1B227",
  "1CHARACTER-1B228|1CHARACTER-1B229|1CHARACTER-1B22A|1CHARACTER-1B22B|1CHARACTER-1B22C",
  "1CHARACTER-1B22D|1CHARACTER-1B22E|1CHARACTER-1B22F|1CHARACTER-1B230|1CHARACTER-1B231",
  "1CHARACTER-1B232|1CHARACTER-1B233|1CHARACTER-1B234|1CHARACTER-1B235|1CHARACTER-1B236",
  "1CHARACTER-1B237|1CHARACTER-1B238|1CHARACTER-1B239|1CHARACTER-1B23A|1CHARACTER-1B23B",
  "1CHARACTER-1B23C|1CHARACTER-1B23D|1CHARACTER-1B23E|1CHARACTER-1B23F|1CHARACTER-1B240",
  "1CHARACTER-1B241|1CHARACTER-1B242|1CHARACTER-1B243|1CHARACTER-1B244|1CHARACTER-1B245",
  "1CHARACTER-1B246|1CHARACTER-1B247|1CHARACTER-1B248|1CHARACTER-1B249|1CHARACTER-1B24A",
  "1CHARACTER-1B24B|1CHARACTER-1B24C|1CHARACTER-1B24D|1CHARACTER-1B24E|1CHARACTER-1B24F",
  "1CHARACTER-1B250|1CHARACTER-1B251|1CHARACTER-1B252|1CHARACTER-1B253|1CHARACTER-1B254",
  "1CHARACTER-1B255|1CHARACTER-1B256|1CHARACTER-1B257|1CHARACTER-1B258|1CHARACTER-1B259",
  "1CHARACTER-1B25A|1CHARACTER-1B25B|1CHARACTER-1B25C|1CHARACTER-1B25D|1CHARACTER-1B25E",
  "1CHARACTER-1B25F|1CHARACTER-1B260|1CHARACTER-1B261|1CHARACTER-1B262|1CHARACTER-1B263",
  "1CHARACTER-1B264|1CHARACTER-1B265|1CHARACTER-1B266|1CHARACTER-1B267|1CHARACTER-1B268",
  "1CHARACTER-1B269|1CHARACTER-1B26A|1CHARACTER-1B26B|1CHARACTER-1B26C|1CHARACTER-1B26D",
  "1CHARACTER-1B26E|1CHARACTER-1B26F|1CHARACTER-1B270|1CHARACTER-1B271|1CHARACTER-1B272",
  "1CHARACTER-1B273|1CHARACTER-1B274|1CHARACTER-1B275|1CHARACTER-1B276|1CHARACTER-1B277",
  "1CHARACTER-1B278|1CHARACTER-1B279|1CHARACTER-1B27A|1CHARACTER-1B27B|1CHARACTER-1B27C",
  "1CHARACTER-1B27D|1CHARACTER-1B27E|1CHARACTER-1B27F|1CHARACTER-1B280|1CHARACTER-1B281",
  "1CHARACTER-1B282|1CHARACTER-1B283|1CHARACTER-1B284|1CHARACTER-1B285|1CHARACTER-1B286",
  "1CHARACTER-1B287|1CHARACTER-1B288|1CHARACTER-1B289|1CHARACTER-1B28A|1CHARACTER-1B28B",
  "1CHARACTER-1B28C|1CHARACTER-1B28D|1CHARACTER-1B28E|1CHARACTER-1B28F|1CHARACTER-1B290",
  "1CHARACTER-1B291|1CHARACTER-1B292|1CHARACTER-1B293|1CHARACTER-1B294|1CHARACTER-1B295",
  "1CHARACTER-1B296|1CHARACTER-1B297|1CHARACTER-1B298|1CHARACTER-1B299|1CHARACTER-1B29A",
  "1CHARACTER-1B29B|1CHARACTER-1B29C|1CHARACTER-1B29D|1CHARACTER-1B29E|1CHARACTER-1B29F",
  "1CHARACTER-1B2A0|1CHARACTER-1B2A1|1CHARACTER-1B2A2|1CHARACTER-1B2A3|1CHARACTER-1B2A4",
  "1CHARACTER-1B2A5|1CHARACTER-1B2A6|1CHARACTER-1B2A7|1CHARACTER-1B2A8|1CHARACTER-1B2A9",
  "1CHARACTER-1B2AA|1CHARACTER-1B2AB|1CHARACTER-1B2AC|1CHARACTER-1B2AD|1CHARACTER-1B2AE",
  "1CHARACTER-1B2AF|1CHARACTER-1B2B0|1CHARACTER-1B2B1|1CHARACTER-1B2B2|1CHARACTER-1B2B3",
  "1CHARACTER-1B2B4|1CHARACTER-1B2B5|1CHARACTER-1B2B6|1CHARACTER-1B2B7|1CHARACTER-1B2B8",
  "1CHARACTER-1B2B9|1CHARACTER-1B2BA|1CHARACTER-1B2BB|1CHARACTER-1B2BC|1CHARACTER-1B2BD",
  "1CHARACTER-1B2BE|1CHARACTER-1B2BF|1CHARACTER-1B2C0|1CHARACTER-1B2C1|1CHARACTER-1B2C2",
  "1CHARACTER-1B2C3|1CHARACTER-1B2C4|1CHARACTER-1B2C5|1CHARACTER-1B2C6|1CHARACTER-1B2C7",
  "1CHARACTER-1B2C8|1CHARACTER-1B2C9|1CHARACTER-1B2CA|1CHARACTER-1B2CB|1CHARACTER-1B2CC",
  "1CHARACTER-1B2CD|1CHARACTER-1B2CE|1CHARACTER-1B2CF|1CHARACTER-1B2D0|1CHARACTER-1B2D1",
  "1CHARACTER-1B2D2|1CHARACTER-1B2D3|1CHARACTER-1B2D4|1CHARACTER-1B2D5|1CHARACTER-1B2D6",
  "1CHARACTER-1B2D7|1CHARACTER-1B2D8|1CHARACTER-1B2D9|1CHARACTER-1B2DA|1CHARACTER-1B2DB",
  "1CHARACTER-1B2DC|1CHARACTER-1B2DD|1CHARACTER-1B2DE|1CHARACTER-1B2DF|1CHARACTER-1B2E0",
  "1CHARACTER-1B2E1|1CHARACTER-1B2E2|1CHARACTER-1B2E3|1CHARACTER-1B2E4|1CHARACTER-1B2E5",
  "1CHARACTER-1B2E6|1CHARACTER-1B2E7|1CHARACTER-1B2E8|1CHARACTER-1B2E9|1CHARACTER-1B2EA",
  "1CHARACTER-1B2EB|1CHARACTER-1B2EC|1CHARACTER-1B2ED|1CHARACTER-1B2EE|1CHARACTER-1B2EF",
  "1CHARACTER-1B2F0|1CHARACTER-1B2F1|1CHARACTER-1B2F2|1CHARACTER-1B2F3|1CHARACTER-1B2F4",
  "1CHARACTER-1B2F5|1CHARACTER-1B2F6|1CHARACTER-1B2F7|1CHARACTER-1B2F8|1CHARACTER-1B2F9",
  "1CHARACTER-1B2FA|1CHARACTER-1B2FB|1ITERATION MARK|0NUT AND BOLT",
  "0NYIAKENG PUACHUE HMONG CIRCLED CA|3DIGIT EIGHT|4FIVE|4FOUR|4NINE|4ONE|4SEVEN|4SIX|4THREE|4TWO",
  "4ZERO|3LETTER A|4AA|4CA|4DA|4DLA|4E|4EE|4FA|4GA|4HA|4HAH|4I|4KA|4LA|4MA|4MLA|4NA|4NCA|4NKA|4NPA",
  "4NPLA|4NQA|4NRA|4NTA|4NTSA|4NTXA|4NYA|4O|4OO|4PA|4PLA|4QA|4RA|4RRA|4SA|4TA|4TSA|4TXA|4U|4VA|4W",
  "4XA|4XYA|4YA|4ZA|3LOGOGRAM NYAJ|3SIGN FOR ANIMAL|5INVERTEBRATE|5LOCATION|5PERSON|5THING|4XW XW",
  "3SYLLABLE LENGTHENER|3TONE-B|3TONE-D|3TONE-G|3TONE-J|3TONE-M|3TONE-S|3TONE-V",
  "0OBJECT REPLACEMENT CHARACTER|0OBLIQUE ANGLE OPENING DOWN|3UP|1HYPHEN|0OBSERVER EYE SYMBOL",
  "0OCR AMOUNT OF CHECK|1BELT BUCKLE|1BOW TIE|1BRANCH BANK IDENTIFICATION|1CHAIR",
  "1CUSTOMER ACCOUNT NUMBER|1DASH|1DOUBLE BACKSLASH|1FORK|1HOOK|1INVERTED FORK|0OCTAGONAL SIGN",
  "0OCTOPUS|0ODEN|0OFFICE BUILDING|0OGHAM FEATHER MARK|1LETTER AILM|2BEITH|2CEIRT|2COLL|2DAIR",
  "2EABHADH|2EADHADH|2EAMHANCHOLL|2FEARN|2GORT|2IFIN|2IODHADH|2LUIS|2MUIN|2NGEADAL|2NION|2ONN|2OR",
  "2PEITH|2RUIS|2SAIL|2STRAIF|2TINNE|2UATH|2UILLEANN|2UR|1REVERSED FEATHER MARK|1SPACE MARK",
  "0OGONEK|0OHM SIGN|0OIL DRUM|0OK HAND SIGN|0OL CHIKI AHAD|2DIGIT EIGHT|3FIVE|3FOUR|3NINE|3ONE",
  "3SEVEN|3SIX|3THREE|3TWO|3ZERO|2GAAHLAA TTUDDAAG|2LETTER AAJ|3AAK|3AAM|3AAW|3AG|3AL|3ANG|3AT",
  "3EDD|3EN|3EP|3ERR|3IH|3INY|3IR|3IS|3LA|3LAA|3LE|3LI|3LO|3LU|3OB|3OH|3OTT|3OV|3UC|3UD|3UNN|3UY",
  "2MU TTUDDAG|2MU-GAAHLAA TTUDDAAG|2PHAARKAA|2PUNCTUATION DOUBLE MUCAAD|3MUCAAD|2RELAA",
  "0OLD CHINESE HOOK MARK|2ITERATION MARK|1HUNGARIAN CAPITAL LETTER A|4AA|4AK|4AMB|4AND|4CLOSE E",
  "4E|4EB|4EC|4ECH|4ECS|4ED|4EE|4EF|4EG|4EGY|4EH|4EJ|4EK|4EL|4ELY|4EM|4EMP|4EN|4ENC|4ENT",
  "4ENT-SHAPED SIGN|4ENY|4EP|4ER|4ES|4ESZ|4ET|4ETY|4EV|4EZ|4EZS|4I|4II|4NIKOLSBURG OE|5UE|4O|4OEE",
  "4OO|4RUDIMENTA OE|5UE|4SHORT ER|4U|4UNK|4US|4UU|2NUMBER FIFTY|3FIVE|3ONE|4HUNDRED|4THOUSAND",
  "3TEN|2SMALL LETTER A|4AA|4AK|4AMB|4AND|4CLOSE E|4E|4EB|4EC|4ECH|4ECS|4ED|4EE|4EF|4EG|4EGY|4EH",
  "4EJ|4EK|4EL|4ELY|4EM|4EMP|4EN|4ENC|4ENT|4ENT-SHAPED SIGN|4ENY|4EP|4ER|4ES|4ESZ|4ET|4ETY|4EV|4EZ",
  "4EZS|4I|4II|4NIKOLSBURG OE|5UE|4O|4OEE|4OO|4RUDIMENTA OE|5UE|4SHORT ER|4U|4UNK|4US|4UU",
  "1ITALIC LETTER A|3BE|3CHE|3DE|3E|3EF|3EKS|3EL|3EM|3EN|3ER|3ERS|3ES|3ESH|3ESS|3HE|3I|3II|3KA|3KE",
  "3KHE|3KU|3NORTHERN TSE|3O|3PE|3PHE|3SHE|3SOUTHERN TSE|3TE|3THE|3U|3UU|3VE|3YE|3ZE",
  "2NUMERAL FIFTY|3FIVE|3ONE|3TEN|1KEY|1NORTH ARABIAN LETTER AIN|4ALEF|4BEH|4DAD|4DAL|4ES-1|4ES-2",
  "4ES-3|4FEH|4GEEM|4GHAIN|4HAH|4HEH|4KAF|4KHAH|4LAM|4MEEM|4NOON|4QAF|4REH|4SAD|4TAH|4TEH|4THAL",
  "4THEH|4WAW|4YEH|4ZAH|4ZAIN|3NUMBER ONE|4TEN|4TWENTY|1PERMIC LETTER AN|3BUR|3CHERY|3DOI|3DZHOI",
  "3DZITA|3E|3EF|3GAI|3HA|3I|3IA|3IE|3KOKE|3LEI|3MENOE|3NENOE|3O|3OO|3PEEI|3REI|3SHCHOOI|3SHOOI",
  "3SII|3TAI|3TSIU|3U|3VER|3VOOI|3YA|3YAT|3YER|3YERI|3YERU|3YRY|3YU|3ZATA|3ZHOI",
  "1PERSIAN NUMBER HUNDRED|3ONE|3TEN|3TWENTY|3TWO|2SIGN A|3AURAMAZDAA|3AURAMAZDAA-2|3AURAMAZDAAHA",
  "3BA|3BAGA|3BUUMISH|3CA|3DA|3DAHYAAUSH|3DAHYAAUSH-2|3DI|3DU|3FA|3GA|3GU|3HA|3I|3JA|3JI|3KA|3KU",
  "3LA|3MA|3MI|3MU|3NA|3NU|3PA|3RA|3RU|3SA|3SHA|3SSA|3TA|3THA|3TU|3U|3VA|3VI|3XA|3XSHAAYATHIYA|3YA",
  "3ZA|2WORD DIVIDER|1PERSONAL COMPUTER|1SOGDIAN FRACTION ONE HALF|2LETTER ALEPH|3ALTERNATE AYIN",
  "3AYIN|3BETH|3FINAL ALEPH|4BETH|4HE|4NUN|5WITH VERTICAL TAIL|4SADHE|5WITH VERTICAL TAIL|4TAW",
  "5WITH VERTICAL TAIL|3GIMEL|3HE|3HETH|3KAPH|3LAMEDH|3MEM|3NUN|3PE|3RESH-AYIN-DALETH|3SADHE",
  "3SAMEKH|3SHIN|3TAW|3WAW|3YODH|3ZAYIN|2LIGATURE AYIN-DALETH|2NUMBER FIVE|3FOUR|3ONE|4HUNDRED",
  "3TEN|3THIRTY|3THREE|3TWENTY|3TWO|1SOUTH ARABIAN LETTER ALEF|4AYN|4BETH|4DALETH|4DHADHE|4DHALETH",
  "4FE|4GHAYN|4GIMEL|4HE|4HETH|4KAPH|4KHETH|4LAMEDH|4MEM|4NUN|4QOPH|4RESH|4SADHE|4SAMEKH|4SAT",
  "4SHIN|4TAW|4TETH|4THAW|4THETH|4WAW|4YODH|4ZAYN|3NUMBER FIFTY|4ONE|3NUMERIC INDICATOR",
  "1TURKIC LETTER ORKHON A|4AB|4AD|4AEB|4AED|4AEG|4AEK|4AEL|4AEN|4AER|4AES|4AET|4AEY|4AG|4AL|4AN",
  "4AQ|4AR|4AS|4ASH|4AT|4AY|4BASH|4EC|4ELT|4EM|4ENC|4ENG|4ENT|4ENY|4EP|4ESH|4EZ|4I|4IC|4IQ|4O|4OE",
  "4OEK|4OP|4OQ|4OT|3YENISEI A|4AB|4AD|4AE|4AEB|4AEG|4AEK|4AEN|4AENG|4AET|4AEY|4AG|4AL|4ANG|4AQ",
  "4AR|4ASH|4AT|4AY|4E|4EC|4ENC|4ENT|4ENY|4ESH|4EZ|4I|4IQ|4OE|4OEK|4OQ|1UYGHUR COMBINING DOT ABOVE",
  "4BELOW|3TWO DOTS ABOVE|5BELOW|2LETTER ALEPH|3BETH|3FINAL HETH|3GIMEL-HETH|3KAPH|3LAMEDH|3LESH",
  "3MEM|3NUN|3PE|3RESH|3SADHE|3SAMEKH|3SHIN|3TAW|3WAW|3YODH|3ZAYIN|2PUNCTUATION BAR|3FOUR DOTS",
  "3TWO BARS|4DOTS|0OLDER ADULT|1MAN|1WOMAN|0OLIVE|0OM SYMBOL",
  "0ON WITH EXCLAMATION MARK WITH LEFT RIGHT ARROW ABOVE|0ONCOMING AUTOMOBILE|1BUS|1FIRE ENGINE",
  "1POLICE CAR|1TAXI|0ONE BUTTON MOUSE|1DOT LEADER|2OVER TWO DOTS PUNCTUATION|0ONE-PIECE SWIMSUIT",
  "0ONION|0OPEN BOOK|1BOX|1CENTRE ASTERISK|2BLACK STAR|2CROSS|2TEARDROP-SPOKED ASTERISK",
  "1FILE FOLDER|1FOLDER|1HANDS SIGN|1LOCK|1MAILBOX WITH LOWERED FLAG|3RAISED FLAG|1SUBSET",
  "1SUPERSET|0OPEN-CIRCUIT-OUTPUT H-TYPE SYMBOL|1L-TYPE SYMBOL|0OPEN-OUTLINED RIGHTWARDS ARROW",
  "0OPERATING SYSTEM COMMAND|0OPHIUCHUS|0OPPOSITION|0OPTICAL DISC|2ICON|0OPTION KEY",
  "0OR WITH DOT INSIDE|0ORANGE BOOK|1HEART|0ORANGUTAN|0ORIGINAL OF|0ORIYA AI LENGTH MARK",
  "1AU LENGTH MARK|1DIGIT EIGHT|2FIVE|2FOUR|2NINE|2ONE|2SEVEN|2SIX|2THREE|2TWO|2ZERO",
  "1FRACTION ONE EIGHTH|3HALF|3QUARTER|3SIXTEENTH|2THREE QUARTERS|3SIXTEENTHS|1ISSHAR|1LETTER A",
  "2AA|2AI|2AU|2BA|2BHA|2CA|2CHA|2DA|2DDA|2DDHA|2DHA|2E|2GA|2GHA|2HA|2I|2II|2JA|2JHA|2KA|2KHA|2LA",
  "2LLA|2MA|2NA|2NGA|2NNA|2NYA|2O|2PA|2PHA|2RA|2RHA|2RRA|2SA|2SHA|2SSA|2TA|2THA|2TTA|2TTHA|2U|2UU",
  "2VA|2VOCALIC L|3LL|3R|3RR|2WA|2YA|2YYA|1SIGN ANUSVARA|2AVAGRAHA|2CANDRABINDU|2NUKTA|2OVERLINE",
  "2VIRAMA|2VISARGA|1VOWEL SIGN AA|3AI|3AU|3E|3I|3II|3O|3U|3UU|3VOCALIC L|4LL|4R|4RR",
  "0ORNATE LEFT PARENTHESIS|1RIGHT PARENTHESIS|0ORTHODOX CROSS|0OSAGE CAPITAL LETTER A|3AH|3AI",
  "3AIN|3BRA|3CHA|3DHA|3E|3EHCHA|3EHKA|3EHPA|3EHTA|3EHTSA|3EIN|3GHA|3HA|3HYA|3I|3KA|3KHA|3KYA|3LA",
  "3MA|3NA|3O|3OIN|3PA|3SA|3SHA|3TA|3TSA|3TSHA|3U|3WA|3ZA|3ZHA|1SMALL LETTER A|3AH|3AI|3AIN|3BRA",
  "3CHA|3DHA|3E|3EHCHA|3EHKA|3EHPA|3EHTA|3EHTSA|3EIN|3GHA|3HA|3HYA|3I|3KA|3KHA|3KYA|3LA|3MA|3NA|3O",
  "3OIN|3PA|3SA|3SHA|3TA|3TSA|3TSHA|3U|3WA|3ZA|3ZHA|0OSC|0OSMANYA DIGIT EIGHT|2FIVE|2FOUR|2NINE",
  "2ONE|2SEVEN|2SIX|2THREE|2TWO|2ZERO|1LETTER A|2AA|2ALEF|2BA|2CAYN|2DEEL|2DHA|2E|2EE|2FA|2GA|2HA",
  "2I|2JA|2KAAF|2KHA|2LAAN|2MIIN|2NUUN|2O|2OO|2QAAF|2RA|2SA|2SHIIN|2TA|2U|2WAW|2XA|2YA|0OTTER",
  "0OTTOMAN SIYAQ ALTERNATE NUMBER EIGHT|4FIVE|4FOUR|5HUNDRED|4NINE|4SEVEN|4SIX|5HUNDRED|4TEN",
  "5THOUSAND|4THREE|4TWO|5THOUSAND|2FRACTION ONE HALF|4SIXTH|2MARRATAN|2NUMBER EIGHT|4HUNDRED",
  "4THOUSAND|3EIGHTY|4THOUSAND|3FIFTY|4THOUSAND|3FIVE|4HUNDRED|4THOUSAND|3FORTY|4THOUSAND|3FOUR",
  "4HUNDRED|4THOUSAND|3NINE|4HUNDRED|4THOUSAND|3NINETY|4THOUSAND|3ONE|4HUNDRED|4THOUSAND|3SEVEN",
  "4HUNDRED|4THOUSAND|3SEVENTY|4THOUSAND|3SIX|4HUNDRED|4THOUSAND|3SIXTY|4THOUSAND|3TEN|4THOUSAND",
  "3THIRTY|4THOUSAND|3THREE|4HUNDRED|4THOUSAND|3TWENTY|4THOUSAND|3TWO|4HUNDRED|4THOUSAND",
  "0OUNCE SIGN|0OUTBOX TRAY|0OUTLINED BLACK STAR|1GREEK CROSS|1LATIN CROSS|1WHITE STAR",
  "0OVERHEATED FACE|0OVERLAP|0OVERLAPPING BLACK SQUARES|1WHITE AND BLACK SQUARES|2SQUARES",
  "0OVERLINE|0OWL|0OX|0OYSTER|0PACKAGE|0PAD|0PADDING CHARACTER|0PAGE|1FACING UP|1WITH CIRCLED TEXT",
  "2CURL|0PAGER|0PAGES|0PAGODA|0PAHAWH HMONG CLAN SIGN FAJ|4HAM|4HAWJ|4KHAB|4KOO|4KWM|4LAUJ|4LIS",
  "4MUAS|4PHAB|4THOJ|4TSAB|4TSHEEJ|4TSWB|4VAJ|4VWJ|4XYOOJ|4YAJ|4YEEG|2CONSONANT AU|3CAU|3CHAU|3HAU",
  "3HLAU|3HNAU|3LAU|3MAU|3NAU|3NCHAU|3NKAU|3NLAU|3NTHAU|3NTSAU|3PLHAU|3QHAU|3RAU|3VAU|3XAU|3YAU",
  "2DIGIT EIGHT|3FIVE|3FOUR|3NINE|3ONE|3SEVEN|3SIX|3THREE|3TWO|3ZERO|2MARK CIM HOM|4KES|4KHAV|4SO",
  "4SUAM|4TAUM|4TUB|2NUMBER HUNDRED MILLIONS|3HUNDREDS|3MILLIONS|3TEN BILLIONS|4THOUSANDS|3TENS",
  "3TRILLIONS|2SIGN AV|3CIM CHEEM|4CUAM TSHOOJ|4HAIS LUS NTOG NTOG|4NRES TOS|4PUB DAWB|4TSOV ROG",
  "4TXWV|5CHWV|3HLI|3HNUB|3IB YAM|3LOS|3MEEJ SUAB|4TSEEB|3MUS|3NQIG|3NTUJ|3TAU|3THIRD-STAGE HLI",
  "3TXHEEJ CEEV|3VOS FEEM|4LUB|4NRUA|4SEEV|4THIAB|4THOM|4TSHAB CEEB|3XAUS|3XIAB|3XYEEM FAIB|4NTXIV",
  "4RHO|4TOV|3XYOO|3ZWJ THAJ|2VOWEL KAAB|3KAAV|3KAB|3KAIB|3KAIV|3KAUB|3KAUV|3KAV|3KAWB|3KAWV|3KEB",
  "3KEEB|3KEEV|3KEV|3KIAB|3KIAV|3KIB|3KIV|3KOB|3KOOB|3KOOV|3KOV|3KUAB|3KUAV|3KUB|3KUV|3KWB|3KWV",
  "0PALLAS|0PALM BRANCH|1DOWN HAND|1TREE|1UP HAND|0PALMS UP TOGETHER",
  "0PALMYRENE LEFT-POINTING FLEURON|1LETTER ALEPH|2AYIN|2BETH|2DALETH|2FINAL NUN|2GIMEL|2HE|2HETH",
  "2KAPH|2LAMEDH|2MEM|2NUN|2PE|2QOPH|2RESH|2SADHE|2SAMEKH|2SHIN|2TAW|2TETH|2WAW|2YODH|2ZAYIN",
  "1NUMBER FIVE|2FOUR|2ONE|2TEN|2THREE|2TWENTY|2TWO|1RIGHT-POINTING FLEURON|0PANCAKES|0PANDA FACE",
  "0PAPERCLIP|0PARACHUTE|0PARAGRAPH SEPARATOR|0PARAGRAPHOS|0PARAGRAPHUS MARK|0PARALLEL TO",
  "1WITH HORIZONTAL STROKE|2TILDE OPERATOR|0PARENTHESIZED DIGIT EIGHT|2FIVE|2FOUR|2NINE|2ONE",
  "2SEVEN|2SIX|2THREE|2TWO|1HANGUL CHIEUCH|3A|2CIEUC|3A|3U|2HIEUH|3A|2IEUNG|3A|2KHIEUKH|3A|2KIYEOK",
  "3A|2MIEUM|3A|2NIEUN|3A|2PHIEUPH|3A|2PIEUP|3A|2RIEUL|3A|2SIOS|3A|2THIEUTH|3A|2TIKEUT|3A",
  "1IDEOGRAPH ALLIANCE|2CALL|2CONGRATULATION|2EARTH|2EIGHT|2ENTERPRISE|2FESTIVAL|2FINANCIAL|2FIRE",
  "2FIVE|2FOUR|2HAVE|2LABOR|2METAL|2MOON|2NAME|2NINE|2ONE|2REACH|2REPRESENT|2RESOURCE|2REST|2SELF",
  "2SEVEN|2SIX|2SOCIETY|2SPECIAL|2STOCK|2STUDY|2SUN|2SUPERVISE|2TEN|2THREE|2TWO|2WATER|2WOOD",
  "1KOREAN CHARACTER O HU|3OJEON|1LATIN CAPITAL LETTER A|4B|4C|4D|4E|4F|4G|4H|4I|4J|4K|4L|4M|4N|4O",
  "4P|4Q|4R|4S|4T|4U|4V|4W|4X|4Y|4Z|2SMALL LETTER A|4B|4C|4D|4E|4F|4G|4H|4I|4J|4K|4L|4M|4N|4O|4P",
  "4Q|4R|4S|4T|4U|4V|4W|4X|4Y|4Z|1NUMBER EIGHTEEN|2ELEVEN|2FIFTEEN|2FOURTEEN|2NINETEEN|2SEVENTEEN",
  "2SIXTEEN|2TEN|2THIRTEEN|2TWELVE|2TWENTY|0PARROT|0PART ALTERNATION MARK|0PARTIAL DIFFERENTIAL",
  "1LINE BACKWARD|2DOWN|2FORWARD|2UP|0PARTIALLY-RECYCLED PAPER SYMBOL|0PARTNERSHIP SIGN",
  "0PARTY POPPER|0PASSED SYMBOL|0PASSENGER SHIP|0PASSIVE-PULL-DOWN-OUTPUT SYMBOL",
  "0PASSIVE-PULL-UP-OUTPUT SYMBOL|0PASSPORT CONTROL|0PAU CIN HAU GLOTTAL STOP|5FINAL|5VARIANT",
  "3LETTER A|4BA|4CA|4CHA|4DA|4E|4FA|4FINAL K|5L|5M|5N|5NG|5P|5T|5W|5Y|4GA|4HA|4I|4IA|4KA|4KHA|4LA",
  "4MA|4NA|4NGA|4O|4PA|4PHA|4RA|4SA|4TA|4THA|4U|4UA|4VA|4ZA|3LOW-FALLING TONE|5FINAL|5LONG|6FINAL",
  "3MID-LEVEL TONE|5FINAL|5LONG FINAL|3RISING TONE|5FINAL|5LONG|6FINAL|3SANDHI GLOTTAL STOP|6FINAL",
  "4TONE|5FINAL|5LONG|6FINAL|0PAW PRINTS|0PDF|0PDI|0PEACE SYMBOL|0PEACH|0PEACOCK|0PEANUTS|0PEAR",
  "0PEDESTRIAN|0PEN OVER STAMPED ENVELOPE|0PENCIL|0PENGUIN|0PENSIVE FACE|0PENTAGRAM",
  "0PEOPLE HUGGING|0PER MILLE SIGN|1SIGN|1TEN THOUSAND SIGN|0PERCENT SIGN|0PERFORMING ARTS",
  "0PERMANENT PAPER SIGN|0PERPENDICULAR|1WITH S|0PERSEVERING FACE|0PERSON BOWING DEEPLY|1CLIMBING",
  "1DOING CARTWHEEL|1FROWNING|1IN LOTUS POSITION|2STEAMY ROOM|1RAISING BOTH HANDS IN CELEBRATION",
  "1WITH BALL|2BLOND HAIR|2CROWN|2FOLDED HANDS|2HEADSCARF|2POUTING FACE|0PERSONAL COMPUTER",
  "0PERSPECTIVE|0PESETA SIGN|0PESO SIGN|0PETRI DISH|0PHAGS-PA DOUBLE HEAD MARK|1LETTER A",
  "2ALTERNATE YA|2ASPIRATED FA|2BA|2CA|2CANDRABINDU|2CHA|2DA|2DDA|2DZA|2E|2EE|2FA|2GA|2GGA|2HA|2I",
  "2JA|2KA|2KHA|2LA|2MA|2NA|2NGA|2NNA|2NYA|2O|2PA|2PHA|2QA|2RA|2SA|2SHA|2SMALL A|2TA|2THA|2TSA",
  "2TSHA|2TTA|2TTHA|2U|2VOICED HA|2VOICELESS SHA|2WA|2XA|2YA|2ZA|2ZHA|1MARK DOUBLE SHAD|2SHAD",
  "1SINGLE HEAD MARK|1SUBJOINED LETTER RA|3WA|3YA|1SUPERFIXED LETTER RA|0PHAISTOS DISC SIGN ARROW",
  "3BEE|3BEEHIVE|3BOOMERANG|3BOW|3BULLS LEG|3CAPTIVE|3CARPENTRY PLANE|3CAT|3CHILD|3CLUB|3COLUMN",
  "3COMB|3COMBINING OBLIQUE STROKE|3DOLIUM|3DOVE|3EAGLE|3FLUTE|3GAUNTLET|3GRATER|3HELMET|3HIDE",
  "3HORN|3LID|3LILY|3MANACLES|3MATTOCK|3OX BACK|3PAPYRUS|3PEDESTRIAN|3PLANE TREE|3PLUMED HEAD|3RAM",
  "3ROSETTE|3SAW|3SHIELD|3SHIP|3SLING|3SMALL AXE|3STRAINER|3TATTOOED HEAD|3TIARA|3TUNNY|3VINE",
  "3WAVY BAND|3WOMAN|0PHILIPPINE DOUBLE PUNCTUATION|1SINGLE PUNCTUATION|0PHOENICIAN LETTER AIN",
  "2ALF|2BET|2DELT|2GAML|2HE|2HET|2KAF|2LAMD|2MEM|2NUN|2PE|2QOF|2ROSH|2SADE|2SEMK|2SHIN|2TAU|2TET",
  "2WAU|2YOD|2ZAI|1NUMBER ONE|3HUNDRED|2TEN|2THREE|2TWENTY|2TWO|1WORD SEPARATOR|0PHOLUS|0PICK",
  "0PICKUP TRUCK|0PIE|0PIG|1FACE|1NOSE|0PILCROW SIGN|0PILE OF POO|0PILL|0PINATA|0PINCHED FINGERS",
  "0PINCHING HAND|0PINE DECORATION|0PINEAPPLE|0PINWHEEL STAR|0PISCES|0PISTOL|0PITCHFORK",
  "1WITH TEE TOP|0PLACARD|0PLACE OF INTEREST SIGN|2WORSHIP|0PLANCK CONSTANT|2OVER TWO PI",
  "0PLAYGROUND SLIDE|0PLAYING CARD ACE OF CLUBS|4DIAMONDS|4HEARTS|4SPADES|2BACK|2BLACK JOKER",
  "2EIGHT OF CLUBS|4DIAMONDS|4HEARTS|4SPADES|2FIVE OF CLUBS|4DIAMONDS|4HEARTS|4SPADES|2FOOL",
  "2FOUR OF CLUBS|4DIAMONDS|4HEARTS|4SPADES|2JACK OF CLUBS|4DIAMONDS|4HEARTS|4SPADES",
  "2KING OF CLUBS|4DIAMONDS|4HEARTS|4SPADES|2KNIGHT OF CLUBS|4DIAMONDS|4HEARTS|4SPADES",
  "2NINE OF CLUBS|4DIAMONDS|4HEARTS|4SPADES|2QUEEN OF CLUBS|4DIAMONDS|4HEARTS|4SPADES|2RED JOKER",
  "2SEVEN OF CLUBS|4DIAMONDS|4HEARTS|4SPADES|2SIX OF CLUBS|4DIAMONDS|4HEARTS|4SPADES|2TEN OF CLUBS",
  "4DIAMONDS|4HEARTS|4SPADES|2THREE OF CLUBS|4DIAMONDS|4HEARTS|4SPADES|2TRUMP-1|2TRUMP-10",
  "2TRUMP-11|2TRUMP-12|2TRUMP-13|2TRUMP-14|2TRUMP-15|2TRUMP-16|2TRUMP-17|2TRUMP-18|2TRUMP-19",
  "2TRUMP-2|2TRUMP-20|2TRUMP-21|2TRUMP-3|2TRUMP-4|2TRUMP-5|2TRUMP-6|2TRUMP-7|2TRUMP-8|2TRUMP-9",
  "2TWO OF CLUBS|4DIAMONDS|4HEARTS|4SPADES|2WHITE JOKER|0PLD|0PLU|0PLUNGER|0PLUS SIGN",
  "2ABOVE EQUALS SIGN|2IN LEFT HALF CIRCLE|3RIGHT HALF CIRCLE|3TRIANGLE|2WITH BLACK TRIANGLE",
  "3CIRCUMFLEX ACCENT ABOVE|3DOT BELOW|3SMALL CIRCLE ABOVE|3SUBSCRIPT TWO|3TILDE ABOVE|4BELOW",
  "0PLUS-MINUS SIGN|0PLUTO|1FORM FIVE|2FOUR|2THREE|2TWO|0PM|0POCKET CALCULATOR|0POLICE CAR",
  "1CARS REVOLVING LIGHT|1OFFICER|0POODLE|0POP DIRECTIONAL FORMATTING|2ISOLATE|0POPCORN",
  "0PORTABLE STEREO|0POSEIDON|0POSITION INDICATOR|0POSTAL HORN|1MARK|2FACE|0POSTBOX|0POT OF FOOD",
  "0POTABLE WATER SYMBOL|0POTATO|0POTTED PLANT|0POUCH|0POULTRY LEG|0POUND SIGN|0POURING LIQUID",
  "0POUTING CAT FACE|1FACE|0POWER ON SYMBOL|1ON-OFF SYMBOL|1SLEEP SYMBOL|1SYMBOL|0PRAYER BEADS",
  "0PRECEDES|1ABOVE ALMOST EQUAL TO|2EQUALS SIGN|2NOT ALMOST EQUAL TO|3EQUAL TO",
  "2SINGLE-LINE EQUALS SIGN|3NOT EQUAL TO|1BUT NOT EQUIVALENT TO|1OR EQUAL TO|2EQUIVALENT TO",
  "1UNDER RELATION|0PREGNANT MAN|1PERSON|1WOMAN|0PRESCRIPTION TAKE",
  "0PRESENTATION FORM FOR VERTICAL COLON|4COMMA|4EM DASH|4EN DASH|4EXCLAMATION MARK",
  "4HORIZONTAL ELLIPSIS|4IDEOGRAPHIC COMMA|5FULL STOP|4LEFT ANGLE BRACKET",
  "5BLACK LENTICULAR BRACKET|5CORNER BRACKET|5CURLY BRACKET|5DOUBLE ANGLE BRACKET|5PARENTHESIS",
  "5SQUARE BRACKET|5TORTOISE SHELL BRACKET|5WHITE CORNER BRACKET|6LENTICULAR BRACKET|4LOW LINE",
  "4QUESTION MARK|4RIGHT ANGLE BRACKET|5BLACK LENTICULAR BRACKET|5CORNER BRACKET|5CURLY BRACKET",
  "5DOUBLE ANGLE BRACKET|5PARENTHESIS|5SQUARE BRACKET|5TORTOISE SHELL BRACKET",
  "5WHITE CORNER BRACKET|6LENTICULAR BRACKET|7BRAKCET|4SEMICOLON|4TWO DOT LEADER|4WAVY LOW LINE",
  "0PRETZEL|0PREVIOUS PAGE|0PRIME|0PRINCE|0PRINCESS|0PRINT SCREEN SYMBOL|0PRINTER|1ICON",
  "0PRIVACY MESSAGE|0PRIVATE USE ONE|2TWO|1USE-1|1USE-2|0PROBING CANE|0PROHIBITED SIGN|0PROJECTIVE",
  "0PROPERTY LINE|0PROPORTION|0PROPORTIONAL TO|0PROSERPINA|0PSALTER PAHLAVI FOUR DOTS WITH CROSS",
  "5DOT|2LETTER ALEPH|3BETH|3DALETH|3GIMEL|3HE|3HETH|3KAPH|3LAMEDH|3MEM-QOPH|3NUN|3PE|3SADHE",
  "3SAMEKH|3SHIN|3TAW|3WAW-AYIN-RESH|3YODH|3ZAYIN|2NUMBER FOUR|3ONE|4HUNDRED|3TEN|3THREE|3TWENTY",
  "3TWO|2SECTION MARK|2TURNED SECTION MARK|0PU1|0PU2|0PUBLIC ADDRESS LOUDSPEAKER",
  "0PUNCTUATION SPACE|0PUNCTUS ELEVATUS MARK|0PURPLE HEART|0PURSE|0PUSHPIN",
  "0PUT LITTER IN ITS PLACE SYMBOL|0QUADRANT LOWER LEFT|2RIGHT|1UPPER LEFT",
  "3AND LOWER LEFT AND LOWER RIGHT|5RIGHT|4UPPER RIGHT AND LOWER LEFT|8RIGHT|2RIGHT",
  "3AND LOWER LEFT|6AND LOWER RIGHT|0QUADRUPLE INTEGRAL OPERATOR|1PRIME|0QUARTER NOTE",
  "0QUATERNION INTEGRAL OPERATOR|0QUESTION EXCLAMATION MARK|1MARK|0QUESTIONED EQUAL TO|0QUINCUNX",
  "0QUOTATION MARK|0RABBIT|1FACE|0RACCOON|0RACING CAR|1MOTORCYCLE|0RADICAL SYMBOL BOTTOM|0RADIO",
  "1BUTTON|0RADIOACTIVE SIGN|0RAILWAY CAR|1TRACK|0RAIN|0RAINBOW|0RAISED BACK OF HAND|1COMMA|1DOT",
  "1DOTTED INTERPOLATION MARKER|1FIST|1HAND|2WITH FINGERS SPLAYED",
  "3PART BETWEEN MIDDLE AND RING FINGERS|1INTERPOLATION MARKER|1MC SIGN|1MD SIGN|1MR SIGN|1SQUARE",
  "0RAM|0RAT|0RATIO|0RAZOR|0RECEIPT|0RECORD SEPARATOR|0RECREATIONAL VEHICLE|0RECYCLED PAPER SYMBOL",
  "0RECYCLING SYMBOL FOR GENERIC MATERIALS|3TYPE-1 PLASTICS|3TYPE-2 PLASTICS|3TYPE-3 PLASTICS",
  "3TYPE-4 PLASTICS|3TYPE-5 PLASTICS|3TYPE-6 PLASTICS|3TYPE-7 PLASTICS|0RED APPLE|1GIFT ENVELOPE",
  "0REFERENCE MARK|0REGIONAL INDICATOR SYMBOL LETTER A|4B|4C|4D|4E|4F|4G|4H|4I|4J|4K|4L|4M|4N|4O",
  "4P|4Q|4R|4S|4T|4U|4V|4W|4X|4Y|4Z|0REGISTERED SIGN|0REJANG CONSONANT SIGN H|3N|3NG|3R|1LETTER A",
  "2BA|2CA|2DA|2GA|2HA|2JA|2KA|2LA|2MA|2MBA|2NA|2NDA|2NGA|2NGGA|2NYA|2NYJA|2PA|2RA|2SA|2TA|2WA|2YA",
  "1SECTION MARK|1VIRAMA|1VOWEL SIGN AI|3AU|3E|3EA|3EU|3I|3O|3U|0RELIEVED FACE|0REMINDER RIBBON",
  "0REPLACEMENT CHARACTER|0RESPONSE|0RESTRICTED LEFT ENTRY-1|2ENTRY-2|0RESTROOM|0RETURN LEFT",
  "1RIGHT|1SYMBOL|0REVERSE CHECKER BOARD|1INDEX|1LIGHT FOUR POINTED PINWHEEL STAR|1LINE FEED",
  "1SOLIDUS|2OPERATOR|2PRECEDING SUBSET|2WITH HORIZONTAL STROKE",
  "1TILDE OPERATOR ABOVE LEFTWARDS ARROW|4RIGHTWARDS ARROW|0REVERSED ANGLE|2WITH UNDERBAR|1COMMA",
  "1DOUBLE PRIME|3QUOTATION MARK|2STROKE NOT SIGN|1EMPTY SET|1FORKED PARAGRAPHOS",
  "1HAND WITH MIDDLE FINGER EXTENDED|1NOT SIGN|1PILCROW SIGN|1PRIME|1QUESTION MARK",
  "1RAISED HAND WITH FINGERS SPLAYED|1RIGHT ANGLE|1ROTATED FLORAL HEART BULLET",
  "1SANS-SERIF CAPITAL L|1SEMICOLON|1THUMBS DOWN SIGN|2UP SIGN|1TILDE|2EQUALS|1TRIPLE PRIME",
  "1VICTORY HAND|0REVOLVING HEARTS|0RHINOCEROS|0RI|0RIAL SIGN|0RIBBON|1ARROW DOWN LEFT|3RIGHT",
  "2LEFT DOWN|3UP|2RIGHT DOWN|3UP|2UP LEFT|3RIGHT|0RICE BALL|1CRACKER|0RIFLE",
  "0RIGHT AND LOWER ONE EIGHTH BLOCK|2UPPER ONE EIGHTH BLOCK|1ANGER BUBBLE|1ANGLE|2BRACKET",
  "3WITH DOT|2DOTTED SUBSTITUTION MARKER|2SUBSTITUTION MARKER|2VARIANT WITH SQUARE|2WITH ARC",
  "3DOWNWARDS ZIGZAG ARROW|1ARC GREATER-THAN BRACKET|1ARROW WITH CIRCLED PLUS|3SMALL CIRCLE",
  "1BLACK LENTICULAR BRACKET|2TORTOISE SHELL BRACKET|1CEILING|1CORNER BRACKET|1CURLY BRACKET",
  "3LOWER HOOK|3MIDDLE PIECE|3UPPER HOOK|1DOTTED SUBSTITUTION BRACKET|1DOUBLE ANGLE BRACKET",
  "2ARROW WITH ROUNDED HEAD|2PARENTHESIS|2QUOTATION MARK|2WIGGLY FENCE|1FISH TAIL",
  "1FIVE EIGHTHS BLOCK|1FLOOR|1HALF BLACK CIRCLE|3STAR|2BLOCK|2FOLDER|2MEDIUM SHADE|2RUNNING MAN",
  "1HAND TELEPHONE RECEIVER|1LOW PARAPHRASE BRACKET|1NORMAL FACTOR SEMIDIRECT PRODUCT",
  "1ONE EIGHTH BLOCK|2QUARTER BLOCK|1OPEN SQUARED DOT|1OUTER JOIN|1PARENTHESIS|2EXTENSION",
  "2LOWER HOOK|2UPPER HOOK|1RAISED OMISSION BRACKET|1S-SHAPED BAG DELIMITER|1SEMIDIRECT PRODUCT",
  "1SEVEN EIGHTHS BLOCK|1SIDEWAYS U BRACKET|1SINGLE QUOTATION MARK|1SPEAKER|2WITH ONE SOUND WAVE",
  "3THREE SOUND WAVES|1SPEECH BUBBLE|1SQUARE BRACKET|3EXTENSION|3LOWER CORNER|3UPPER CORNER",
  "3WITH DOUBLE STROKE|4QUILL|4STROKE|4TICK IN BOTTOM CORNER|6TOP CORNER|4UNDERBAR",
  "1SUBSTITUTION BRACKET|1TACK|1THIRD WHITE RIGHT POINTING INDEX|1THOUGHT BUBBLE",
  "1THREE EIGHTHS BLOCK|2QUARTERS BLOCK|1TORTOISE SHELL BRACKET|1TRANSPOSITION BRACKET|1TRIANGLE",
  "2ABOVE LEFT TRIANGLE|1TRIANGULAR ONE QUARTER BLOCK|1VERTICAL BAR WITH QUILL|2BOX LINE",
  "1WHITE CORNER BRACKET|2CURLY BRACKET|2LENTICULAR BRACKET|2PARENTHESIS|2SQUARE BRACKET",
  "2TORTOISE SHELL BRACKET|1WIGGLY FENCE|0RIGHT-FACING ARMENIAN ETERNITY SIGN|1FIST|1SVASTI SIGN",
  "3WITH DOTS|0RIGHT-HANDED INTERLACED PENTAGRAM|0RIGHT-POINTING ANGLE BRACKET",
  "1CURVED ANGLE BRACKET|1DOUBLE ANGLE QUOTATION MARK|1MAGNIFYING GLASS",
  "0RIGHT-SHADED WHITE RIGHTWARDS ARROW|0RIGHT-SIDE ARC CLOCKWISE ARROW|0RIGHT-TO-LEFT EMBEDDING",
  "1ISOLATE|1MARK|1OVERRIDE|0RIGHTHAND INTERIOR PRODUCT|0RIGHTWARDS ARROW|2ABOVE ALMOST EQUAL TO",
  "3REVERSE ALMOST EQUAL TO|4TILDE OPERATOR|3SHORT LEFTWARDS ARROW|3TILDE OPERATOR",
  "2AND UPPER AND LOWER ONE EIGHTH BLOCK|2FROM BAR|4TO BLACK DIAMOND|2OVER LEFTWARDS ARROW",
  "2THROUGH GREATER-THAN|3SUPERSET|3X|2TO BAR|3BLACK DIAMOND|2WITH CORNER DOWNWARDS|3DOTTED STEM",
  "3DOUBLE VERTICAL STROKE|3EQUILATERAL ARROWHEAD|3HOOK|3LARGE TRIANGLE ARROWHEAD|3LOOP",
  "3MEDIUM TRIANGLE ARROWHEAD|3NOTCHED TAIL|3PLUS BELOW|3SMALL EQUILATERAL ARROWHEAD",
  "4TRIANGLE ARROWHEAD|3STROKE|3TAIL|4WITH DOUBLE VERTICAL STROKE|5VERTICAL STROKE|3TIP DOWNWARDS",
  "4UPWARDS|3VERTICAL STROKE|1ARROW-TAIL|1BACK-TILTED SHADOWED WHITE ARROW|1BLACK ARROW",
  "2CIRCLED WHITE ARROW|1BOTTOM SHADED WHITE ARROW|1COMPRESSED ARROW|1DASHED ARROW|1DOUBLE ARROW",
  "3FROM BAR|3WITH STROKE|4VERTICAL STROKE|2ARROW-TAIL|2DASH ARROW|1FINGER-POST ARROW",
  "1FRONT-TILTED SHADOWED WHITE ARROW|1HAND|1HARPOON OVER LEFTWARDS HARPOON",
  "2WITH BARB DOWN ABOVE LEFTWARDS HARPOON WITH BARB DOWN|5BELOW LONG DASH|5FROM BAR|5TO BAR",
  "4DOWNWARDS|4UP ABOVE LEFTWARDS HARPOON WITH BARB UP|6LONG DASH",
  "6RIGHTWARDS HARPOON WITH BARB DOWN|5FROM BAR|5TO BAR|4UPWARDS|1HEAVY ARROW|2COMPRESSED ARROW",
  "1LEFT-SHADED WHITE ARROW|1OPEN-HEADED ARROW|1PAIRED ARROWS|1QUADRUPLE ARROW",
  "1RIGHT-SHADED WHITE ARROW|1ROCKET|1SANS-SERIF ARROW|1SQUARED ARROW|1SQUIGGLE ARROW",
  "1TOP SHADED WHITE ARROW|1TRIANGLE ARROWHEAD|1TRIANGLE-HEADED ARROW",
  "3OVER LEFTWARDS TRIANGLE-HEADED ARROW|3TO BAR|3WITH BOLD SHAFT|4DOUBLE HORIZONTAL STROKE",
  "5VERTICAL STROKE|4HEAVY SHAFT|4LONG TIP DOWNWARDS|6UPWARDS|4MEDIUM SHAFT|4NARROW SHAFT",
  "4VERY HEAVY SHAFT|2DASHED ARROW|2PAIRED ARROWS|1TRIPLE ARROW|2DASH ARROW|1TWO HEADED ARROW",
  "1TWO-HEADED ARROW FROM BAR|3WITH DOUBLE VERTICAL STROKE|4TAIL|5WITH DOUBLE VERTICAL STROKE",
  "6VERTICAL STROKE|4TRIANGLE ARROWHEADS|4VERTICAL STROKE|2TRIPLE DASH ARROW|1WAVE ARROW",
  "1WHITE ARROW|3FROM WALL|3WITHIN TRIANGLE ARROWHEAD|0RING|1ABOVE|1BUOY|1EQUAL TO|1IN EQUAL TO",
  "1OPERATOR|1POINT|0RINGED PLANET|0RINGING BELL|0RISING DIAGONAL CROSSING FALLING DIAGONAL",
  "3SOUTH EAST ARROW|0RLE|0RLI|0RLM|0RLO|0ROASTED SWEET POTATO|0ROBOT FACE|0ROCK|0ROCKET",
  "0ROLL OF PAPER|0ROLLED-UP NEWSPAPER|0ROLLER COASTER|1SKATE|0ROLLING ON THE FLOOR LAUGHING",
  "0ROMAN AS SIGN|1CENTURIAL SIGN|1DENARIUS SIGN|1DIMIDIA SEXTULA SIGN|1DUPONDIUS SIGN",
  "1NUMERAL EIGHT|2ELEVEN|2FIFTY|3EARLY FORM|3THOUSAND|2FIVE|3HUNDRED|3THOUSAND|2FOUR|2NINE|2ONE",
  "3HUNDRED|4THOUSAND|3THOUSAND|4C D|2REVERSED ONE HUNDRED|2SEVEN|2SIX|3LATE FORM|2TEN|3THOUSAND",
  "2THREE|2TWELVE|2TWO|1QUINARIUS SIGN|1SEMUNCIA SIGN|1SESTERTIUS SIGN|1SEXTANS SIGN|1SEXTULA SIGN",
  "1SILIQUA SIGN|1UNCIA SIGN|0ROOSTER|0ROSE|0ROSETTE|0ROTATED CAPITAL Q|1FLORAL HEART BULLET",
  "1HEAVY BLACK HEART BULLET|1LIGHT FOUR POINTED BLACK CUSP|1WHITE FOUR POINTED CUSP",
  "0ROUND PUSHPIN|1TARGET|0ROUNDED SYMBOL FOR CAI|3FU|3LU|3SHOU|3SHUANGXI|3XI|0ROWBOAT|0RS",
  "0RUBLE SIGN|0RUGBY FOOTBALL|0RULE-DELAYED|0RUMI DIGIT EIGHT|2FIVE|2FOUR|2NINE|2ONE|2SEVEN|2SIX",
  "2THREE|2TWO|1FRACTION ONE HALF|3QUARTER|3THIRD|2TWO THIRDS|1NUMBER EIGHT HUNDRED|2EIGHTY|2FIFTY",
  "2FIVE HUNDRED|2FORTY|2FOUR HUNDRED|2NINE HUNDRED|2NINETY|2ONE HUNDRED|2SEVEN HUNDRED|2SEVENTY",
  "2SIX HUNDRED|2SIXTY|2TEN|2THIRTY|2THREE HUNDRED|2TWENTY|2TWO HUNDRED|0RUNIC ARLAUG SYMBOL",
  "1BELGTHOR SYMBOL|1CROSS PUNCTUATION|1LETTER AC A|2AESC|2ALGIZ EOLHX|2ANSUZ A",
  "2BERKANAN BEORC BJARKAN B|2C|2CALC|2CEALC|2CEN|2CWEORTH|2D|2DAGAZ DAEG D|2DOTTED-L|2DOTTED-N",
  "2DOTTED-P|2E|2EAR|2EHWAZ EH E|2ENG|2ETH|2FEHU FEOH FE F|2FRANKS CASKET AC|4AESC|4EH|4IS|4OS|2G",
  "2GAR|2GEBO GYFU G|2GER|2HAEGL H|2HAGLAZ H|2ICELANDIC-YR|2ING|2INGWAZ|2IOR|2ISAZ IS ISS I",
  "2IWAZ EOH|2JERAN J|2K|2KAUN K|2KAUNA|2LAUKAZ LAGU LOGR L|2LONG-BRANCH-AR AE",
  "2LONG-BRANCH-HAGALL H|2LONG-BRANCH-MADR M|2LONG-BRANCH-OSS O|2LONG-BRANCH-YR|2MANNAZ MAN M",
  "2NAUDIZ NYD NAUD N|2O|2OE|2ON|2OO|2OPEN-P|2OS O|2OTHALAN ETHEL O|2PERTHO PEORTH P|2Q",
  "2RAIDO RAD REID R|2SH|2SHORT-TWIG-AR A|2SHORT-TWIG-BJARKAN B|2SHORT-TWIG-HAGALL H",
  "2SHORT-TWIG-MADR M|2SHORT-TWIG-NAUD N|2SHORT-TWIG-OSS O|2SHORT-TWIG-SOL S|2SHORT-TWIG-TYR T",
  "2SHORT-TWIG-YR|2SIGEL LONG-BRANCH-SOL S|2SOWILO S|2STAN|2THURISAZ THURS THORN|2TIWAZ TIR TYR T",
  "2URUZ UR U|2V|2W|2WUNJO WYNN W|2X|2Y|2YR|2Z|1MULTIPLE PUNCTUATION|1SINGLE PUNCTUATION",
  "1TVIMADUR SYMBOL|0RUNNER|0RUNNING SHIRT WITH SASH|0RUPEE SIGN",
  "0RUSSIAN ASTROLOGICAL SYMBOL BINOVILE|3NOVILE|3QUINTILE|3SENTAGON|3TREDECILE|3VIGINTILE"]

def namesFromS : List String := [
  "0S IN TRIANGLE|0SAFETY PIN|1VEST|0SAGITTARIUS|0SAILBOAT|0SAKE BOTTLE AND CUP|0SALT SHAKER",
  "0SALTIRE|0SALUTING FACE|0SAMARITAN ABBREVIATION MARK|1LETTER ALAF|2BAA|2BIT|2DALAT|2FI|2GAMAN",
  "2IN|2IT|2IY|2KAAF|2LABAT|2MIM|2NUN|2QUF|2RISH|2SHAN|2SINGAAT|2TAAF|2TIT|2TSAADIY|2YUT|2ZEN",
  "1MARK DAGESH|2EPENTHETIC YUT|2IN|2IN-ALAF|2NEQUDAA|2OCCLUSION|1MODIFIER LETTER EPENTHETIC YUT",
  "3I|3SHORT A|1PUNCTUATION AFSAAQ|2ANGED|2ANNAAU|2ARKAANU|2ATMAAU|2BAU|2MELODIC QITSA|2NEQUDAA",
  "2QITSA|2SHIYYAALAA|2SOF MASHFAAT|2TURU|2ZAEF|2ZIQAA|1VOWEL SIGN A|3AA|3E|3I|3LONG A|4AA|4E|4I",
  "4U|3O|3OVERLONG A|4AA|3SHORT A|3SUKUN|3U|0SANDWICH",
  "0SANS-SERIF HEAVY DOUBLE COMMA QUOTATION MARK ORNAMENT|3TURNED COMMA QUOTATION MARK ORNAMENT",
  "2LOW DOUBLE COMMA QUOTATION MARK ORNAMENT|1INTERROBANG ORNAMENT|0SARI|0SATELLITE|1ANTENNA",
  "0SATURN|0SAURASHTRA CONSONANT SIGN HAARU|1DANDA|1DIGIT EIGHT|2FIVE|2FOUR|2NINE|2ONE|2SEVEN|2SIX",
  "2THREE|2TWO|2ZERO|1DOUBLE DANDA|1LETTER A|2AA|2AI|2AU|2BA|2BHA|2CA|2CHA|2DA|2DDA|2DDHA|2DHA|2E",
  "2EE|2GA|2GHA|2HA|2I|2II|2JA|2JHA|2KA|2KHA|2LA|2LLA|2MA|2NA|2NGA|2NNA|2NYA|2O|2OO|2PA|2PHA|2RA",
  "2SA|2SHA|2SSA|2TA|2THA|2TTA|2TTHA|2U|2UU|2VA|2VOCALIC L|3LL|3R|3RR|2YA|1SIGN ANUSVARA",
  "2CANDRABINDU|2VIRAMA|2VISARGA|1VOWEL SIGN AA|3AI|3AU|3E|3EE|3I|3II|3O|3OO|3U|3UU|3VOCALIC L|4LL",
  "4R|4RR|0SAUROPOD|0SAXOPHONE|0SCALES|0SCARF|0SCHOOL|1SATCHEL|0SCI|0SCOOTER|0SCORPION|0SCORPIUS",
  "0SCREEN|0SCREWDRIVER|0SCRIPT CAPITAL B|2E|2F|2H|2I|2L|2M|2P|2R|1LIGATURE ET ORNAMENT|1SMALL E",
  "2G|2L|2O|0SCROLL|0SCRUPLE|0SEAL|0SEAT|0SECOND PLACE MEDAL|0SECTION SIGN|0SECTOR|0SEDNA",
  "0SEE-NO-EVIL MONKEY|0SEEDLING|0SEGMENT|0SEGMENTED DIGIT EIGHT|2FIVE|2FOUR|2NINE|2ONE|2SEVEN",
  "2SIX|2THREE|2TWO|2ZERO|0SELFIE|0SEMICOLON|0SEMIDIRECT PRODUCT WITH BOTTOM CLOSED|0SEMISEXTILE",
  "0SEPARATED SYMBOL|0SERIOUS FACE WITH SYMBOLS COVERING MOUTH|0SERVICE MARK|0SESAME DOT",
  "0SESQUIQUADRATE|0SET MINUS|1TRANSMIT STATE|0SEWING NEEDLE|0SEXTILE|0SGC|0SHADOWED WHITE CIRCLE",
  "2LATIN CROSS|2STAR|0SHALLOW PAN OF FOOD|0SHAMROCK|0SHARADA ABBREVIATION SIGN|1CONTINUATION SIGN",
  "1DANDA|1DIGIT EIGHT|2FIVE|2FOUR|2NINE|2ONE|2SEVEN|2SIX|2THREE|2TWO|2ZERO|1DOUBLE DANDA|1EKAM",
  "1EXTRA SHORT VOWEL MARK|1HEADSTROKE|1LETTER A|2AA|2AI|2AU|2BA|2BHA|2CA|2CHA|2DA|2DDA|2DDHA|2DHA",
  "2E|2GA|2GHA|2HA|2I|2II|2JA|2JHA|2KA|2KHA|2LA|2LLA|2MA|2NA|2NGA|2NNA|2NYA|2O|2PA|2PHA|2RA|2SA",
  "2SHA|2SSA|2TA|2THA|2TTA|2TTHA|2U|2UU|2VA|2VOCALIC L|3LL|3R|3RR|2YA|1OM|1SANDHI MARK",
  "1SECTION MARK-1|2MARK-2|1SEPARATOR|1SIGN ANUSVARA|2AVAGRAHA|2CANDRABINDU|2INVERTED CANDRABINDU",
  "2JIHVAMULIYA|2NUKTA|2SIDDHAM|2UPADHMANIYA|2VIRAMA|2VISARGA|1SUTRA MARK|1VOWEL MODIFIER MARK",
  "2SIGN AA|3AI|3AU|3E|3I|3II|3O|3PRISHTHAMATRA E|3U|3UU|3VOCALIC L|4LL|4R|4RR|0SHARK|0SHAVED ICE",
  "0SHAVIAN LETTER ADO|2AGE|2AH|2AIR|2ARE|2ARRAY|2ASH|2AWE|2BIB|2CHURCH|2DEAD|2EAR|2EAT|2EGG|2ERR",
  "2FEE|2GAG|2HA-HA|2HUNG|2IAN|2ICE|2IF|2JUDGE|2KICK|2LOLL|2MEASURE|2MIME|2NUN|2OAK|2OIL|2ON|2OOZE",
  "2OR|2OUT|2PEEP|2ROAR|2SO|2SURE|2THEY|2THIGH|2TOT|2UP|2VOW|2WOE|2WOOL|2YEA|2YEW|2ZOO|0SHEEP",
  "0SHIELD|0SHIFT IN|1OUT|0SHINTO SHRINE|0SHIP|0SHOCKED FACE WITH EXPLODING HEAD|0SHOOTING STAR",
  "0SHOPPING BAGS|1TROLLEY|0SHORT BACKSLANTED SOUTH ARROW",
  "1BENT ARROW POINTING DOWNWARDS THEN NORTH EAST|1DOWN TACK|3WITH OVERBAR|1LEFT TACK",
  "1RIGHTWARDS ARROW ABOVE LEFTWARDS ARROW|1SLANTED NORTH ARROW|1UP TACK|3ABOVE SHORT DOWN TACK",
  "3WITH UNDERBAR|0SHORTCAKE|0SHORTHAND FORMAT CONTINUING OVERLAP|2DOWN STEP|2LETTER OVERLAP",
  "2UP STEP|0SHORTS|0SHOULDERED OPEN BOX|0SHOWER|0SHRIMP|0SHRUG|0SHUFFLE PRODUCT|0SHY|0SI",
  "0SIDDHAM DANDA|1DOUBLE DANDA|1END OF TEXT MARK|1LETTER A|2AA|2AI|2ALTERNATE U|2AU|2BA|2BHA|2CA",
  "2CHA|2DA|2DDA|2DDHA|2DHA|2E|2GA|2GHA|2HA|2I|2II|2JA|2JHA|2KA|2KHA|2LA|2MA|2NA|2NGA|2NNA|2NYA|2O",
  "2PA|2PHA|2RA|2SA|2SHA|2SSA|2TA|2THA|2THREE-CIRCLE ALTERNATE I|2TTA|2TTHA",
  "2TWO-CIRCLE ALTERNATE I|4II|2U|2UU|2VA|2VOCALIC L|3LL|3R|3RR|2YA|1REPETITION MARK-1|2MARK-2",
  "2MARK-3|1SECTION MARK DOUBLE RING|5WITH RAYS|3WITH CIRCLES AND FOUR ENCLOSURES|6RAYS",
  "6TWO ENCLOSURES|4DOUBLE CRESCENTS|4QUADRUPLE CRESCENTS|4RAYS AND DOTTED CRESCENTS",
  "7DOUBLE CRESCENTS|7TRIPLE CRESCENTS|4SEPTUPLE CRESCENTS|4TRIDENT AND DOTTED CRESCENTS",
  "6U-SHAPED ORNAMENTS|4TRIPLE CRESCENTS|1SEPARATOR BAR|2DOT|1SIGN ANUSVARA|2CANDRABINDU|2NUKTA",
  "2SIDDHAM|2VIRAMA|2VISARGA|1VOWEL SIGN AA|3AI|3ALTERNATE U|4UU|3AU|3E|3I|3II|3O|3U|3UU",
  "3VOCALIC R|4RR|0SIDEWAYS BLACK DOWN POINTING INDEX|2LEFT POINTING INDEX|2RIGHT POINTING INDEX",
  "2UP POINTING INDEX|1WHITE DOWN POINTING INDEX|2LEFT POINTING INDEX|2RIGHT POINTING INDEX",
  "2UP POINTING INDEX|0SIGN OF THE HORNS|0SIGNWRITING AIR BLOW SMALL ROTATIONS|2BLOWING OUT",
  "2SUCK SMALL ROTATIONS|2SUCKING IN|1BREATH EXHALE|2INHALE|1BRUSH BETWEEN|2MULTIPLE|2SINGLE",
  "1CHEEKS NEUTRAL|2PUFFED|2SUCKED|1COLON|1COMMA|1DREAMY EYEBROWS DOWN NEUTRAL|3NEUTRAL DOWN|4UP",
  "3UP NEUTRAL|1DYNAMIC ARROWHEAD LARGE|3SMALL|2EVERY OTHER TIME|2FAST|2GRADUAL|2RELAXED",
  "2SIMULTANEOUS|3ALTERNATING|2SLOW|2TENSE|1EARS|1EXCITEMENT|1EYE BLINK MULTIPLE|3SINGLE|2WINK",
  "1EYEBROWS STRAIGHT DOWN|3NEUTRAL|3UP|1EYEGAZE-FLOORPLANE CURVED|2STRAIGHT|3ALTERNATING|3DOUBLE",
  "1EYEGAZE-WALLPLANE CIRCLING|2CURVED|2STRAIGHT|3ALTERNATING|3DOUBLE|1EYELASHES DOWN|2FLUTTERING",
  "2UP|1EYES CLOSED|2HALF CLOSED|3OPEN|2OPEN|2SQUEEZED|2WIDE OPEN|2WIDENING MOVEMENT",
  "1FACE DIRECTION POSITION NOSE FORWARD TILTING|5UP OR DOWN|8TILTING|1FILL MODIFIER-2|2MODIFIER-3",
  "2MODIFIER-4|2MODIFIER-5|2MODIFIER-6|1FINGER|1FLICK LARGE MULTIPLE|3SINGLE|2SEQUENTIAL",
  "2SMALL MULTIPLE|3SINGLE|1FLOORPLANE SHOULDER HIP MOVE|1FOREHEAD CONTACT|2NEUTRAL|2WRINKLED",
  "1FULL STOP|1GRASP BETWEEN|2MULTIPLE|2SINGLE|1HAIR|1HAND-ANGLE|2INDEX|3MIDDLE LITTLE|4RING",
  "3RING LITTLE|5OUT|3THUMB|4IN|4OUT|2LITTLE INDEX|4THUMB INDEX THUMB|7OUT|3UP|2MIDDLE RING LITTLE",
  "5IN|5OUT|2RING DOWN MIDDLE THUMB INDEX CROSS|3LITTLE|1HAND-CIRCLE|2INDEX|3BENT|3HINGE|3MIDDLE",
  "4CROSS LITTLE|4CROSSED|4LITTLE|4RING|4THUMB|3RING LITTLE|2LITTLE INDEX|3UP|2MIDDLE RING LITTLE",
  "5BENT|3UP|2RING LITTLE|1HAND-CLAW|2FOUR FINGERS CONJOINED|2INDEX THUMB CURVE THUMB INSIDE",
  "2MIDDLE RING LITTLE CONJOINED|6SIDE|2NO THUMB|2THUMB FORWARD|3SIDE|1HAND-CUP",
  "2FIVE FINGERS SPREAD|5OPEN|2INDEX|3RING LITTLE|3THUMB|4OPEN|2MIDDLE RING LITTLE|2NO THUMB|2OPEN",
  "3NO THUMB|3THUMB FORWARD|4SIDE|2THUMB FORWARD|3SIDE|1HAND-CURLICUE|2INDEX RING LITTLE ON",
  "2MIDDLE RING LITTLE ON|2OPEN|1HAND-FIST|2FOUR FINGERS CONJOINED BENT|2HEEL|2INDEX|3BENT",
  "4OVER MIDDLE|3CUPPED|3HINGED|4LOW|4MIDDLE UP|6THUMB SIDE|3MIDDLE|4BENT|5THUMB STRAIGHT",
  "4CONJOINED|5CUPPED|6THUMB FORWARD|5HINGED|6THUMB SIDE|5INDEX BENT|5MIDDLE BENT|5THUMB FORWARD",
  "6SIDE|7BENT|7CONJOINED|4CROSS LITTLE|4CROSSED|5THUMB SIDE|4HINGED|5SPREAD THUMB SIDE|4LITTLE",
  "4RAISED KNUCKLES|4RING|5BENT|5CONJOINED|4STRAIGHT THUMB BENT|4THUMB|5ANGLED|6OUT|5BENT|5CIRCLED",
  "5CONJOINED HINGED|5CUPPED|5HINGED|5HOOKED|4UP SPREAD THUMB FORWARD|3RAISED KNUCKLE|3RING LITTLE",
  "3THUMB ANGLED IN MIDDLE UP|5OUT MIDDLE UP|4CIRCLE|4CIRCLED MIDDLE UP|4CUPPED MIDDLE UP",
  "4CURLICUE|4CURVE THUMB INSIDE|6UNDER|4FORWARD INDEX BENT|6STRAIGHT|4HOOK|4HOOKED MIDDLE HINGED",
  "6UP|4SIDE|5BOTH BENT|5INDEX BENT|6HINGE|5THUMB BENT|6CONJOINED|6DIAGONAL|3UP MIDDLE HINGED",
  "6THUMB CONJOINED|7SIDE|2LITTLE BENT|3DOWN|4OTHERS CIRCLED|4RIPPLE CURVED|5STRAIGHT|3INDEX",
  "4THUMB|3RAISED KNUCKLE|3THUMB|3TOUCHES THUMB|3UP|2MIDDLE BENT OVER INDEX|3DOWN|3LITTLE",
  "3RAISED KNUCKLE|3RING LITTLE|3THUMB ANGLED INDEX UP|5OUT INDEX CROSSED|7UP",
  "4CIRCLED INDEX HINGED|6UP|4CUPPED INDEX UP|4HOOKED INDEX UP|4LITTLE|3UP|4THUMB SIDE|2RING DOWN",
  "3INDEX|3LITTLE|3MIDDLE|4CONJOINED|4RAISED KNUCKLES|3RAISED KNUCKLE|3THUMB|3UP|2THUMB",
  "3BETWEEN INDEX MIDDLE|6STRAIGHT|4MIDDLE RING|4RING LITTLE|3FORWARD|3HEEL",
  "3OVER FOUR RAISED KNUCKLES|4TWO FINGERS|3SIDE BENT|4CONJOINED|4DIAGONAL|3UNDER FOUR FINGERS",
  "4INDEX BENT|4LITTLE UP|4THREE FINGERS|4TWO FINGERS|1HAND-FLAT|2BETWEEN PALM FACINGS",
  "2FIVE FINGERS SPREAD|5BENT|5FOUR BENT|5HINGED|6NO THUMB|6THUMB SIDE|5THUMB FORWARD",
  "2FOUR FINGERS|4BENT|4CONJOINED|5SPLIT|4HINGED|2HEEL|3FIVE FINGERS SPREAD|6BENT|6FOUR BENT",
  "3THUMB SIDE|2SPLIT CENTRE|4THUMB SIDE|6BENT|3INDEX THUMB SIDE|3LITTLE|2THUMB BENT|3FORWARD",
  "3SIDE|1HAND-HINGE|2FIVE FINGERS SPREAD OPEN|2FOUR FINGERS CONJOINED|2INDEX|3HINGED",
  "3MIDDLE LITTLE|4RING|5CONJOINED|3RING LITTLE|3THUMB|4LARGE|4OPEN|4SIDE|4SMALL|2LITTLE|3INDEX",
  "4THUMB|3THUMB|2MIDDLE|3RING LITTLE|2NO THUMB|2OPEN|3NO THUMB|3THUMB FORWARD|4SIDE|2RING",
  "3DOWN INDEX THUMB HOOK MIDDLE|2SMALL|2THUMB BETWEEN MIDDLE RING|3SIDE|4TOUCHING INDEX",
  "1HAND-HOOK|2CURLICUE|2INDEX RING LITTLE IN|5OUT|5UNDER|2MIDDLE RING LITTLE CONJOINED|6IN|6OUT",
  "3THUMB|2RING THUMB|1HAND-OVAL|2FIVE FINGERS SPREAD|2INDEX|2LITTLE UP|2NO THUMB|2RING LITTLE",
  "2THUMB FORWARD|3SIDE|1HEAD|2MOVEMENT CIRCLE|2MOVEMENT-FLOORPLANE CURVE|3STRAIGHT",
  "2MOVEMENT-WALLPLANE CURVE|3STRAIGHT|3TILT|2RIM|1LIMB COMBINATION|2LENGTH-1|2LENGTH-2|2LENGTH-3",
  "2LENGTH-4|2LENGTH-5|2LENGTH-6|2LENGTH-7|1LIP LOWER OVER UPPER|2UPPER OVER LOWER",
  "1LIPS PRESSED TOGETHER|1LOCATION DEPTH|2HEAD NECK|2HEIGHT|2LIMBS DIGITS|2TORSO|2WIDTH",
  "1LOCATION-FLOORPLANE SPACE|1LOCATION-WALLPLANE SPACE|1MOUTH CLOSED CONTACT|3FORWARD|3NEUTRAL",
  "2CORNERS|2FROWN|3OPEN|3WRINKLED|2KISS|3FORWARD|3WRINKLED|2OPEN CIRCLE|3FORWARD|3OVAL|4WRINKLED",
  "4YAWN|3RECTANGLE|4WRINKLED|4YAWN|3WRINKLED|2SMILE|3OPEN|3WRINKLED|2TENSE|3FORWARD|3SUCKED",
  "2WRINKLES DOUBLE|3SINGLE|1MOVEMENT-DIAGONAL AWAY LARGE|3LARGEST|3MEDIUM|3SMALL",
  "2BETWEEN AWAY LARGE|4LARGEST|4MEDIUM|4SMALL|3TOWARDS LARGE|4LARGEST|4MEDIUM|4SMALL",
  "2TOWARDS LARGE|3LARGEST|3MEDIUM|3SMALL",
  "1MOVEMENT-FLOORPLANE ARM CIRCLE HITTING WALL LARGE DOUBLE|7SINGLE|6MEDIUM DOUBLE|7SINGLE",
  "6SMALL DOUBLE|7SINGLE|2BEND|2BOX LARGE|3MEDIUM|3SMALL|2CHECK|2CORNER LARGE|3MEDIUM|3SMALL",
  "2CROSS|2CURVE COMBINED|3HITTING CEILING LARGE|5SMALL|4FLOOR LARGE|5SMALL|3LARGE|3LARGEST",
  "3MEDIUM|3SMALL|2DOUBLE ALTERNATING|4WRIST FLEX|3STRAIGHT|3WRIST FLEX",
  "2FINGER CIRCLES HITTING WALL DOUBLE|6SINGLE|3CONTACT|2HUMP HITTING CEILING LARGE DOUBLE|6TRIPLE",
  "5SMALL DOUBLE|6TRIPLE|4FLOOR LARGE DOUBLE|5SMALL DOUBLE|5TRIPLE LARGE TRIPLE|6SMALL TRIPLE",
  "3SMALL|2JAW|2LOOP HITTING CEILING LARGE DOUBLE|6SINGLE|5SMALL DOUBLE|6SINGLE",
  "4FLOOR LARGE DOUBLE|6SINGLE|5SMALL DOUBLE|6SINGLE|3SMALL|2PEAKS LARGE|3MEDIUM|3SMALL",
  "2SHAKING PARALLEL|2SINGLE STRAIGHT LARGE|4LARGEST|4MEDIUM|4SMALL|3WRIST FLEX",
  "2TRIPLE ALTERNATING MOVEMENT|4WRIST FLEX|3STRAIGHT MOVEMENT|3WRIST FLEX",
  "2WAVE HITTING CEILING LARGE|5SMALL|4FLOOR LARGE|5SMALL|3LARGE|3SMALL|3SNAKE",
  "2WRIST CIRCLE HITTING WALL DOUBLE|6SINGLE|2ZIGZAG LARGE|3MEDIUM|3SMALL",
  "1MOVEMENT-HINGE DOWN SEQUENTIAL|2SIDE TO SIDE SCISSORS|2UP DOWN ALTERNATING LARGE|5SMALL|4LARGE",
  "4SMALL|3SEQUENTIAL|1MOVEMENT-WALLPLANE ARM CIRCLE MEDIUM DOUBLE|5SINGLE|4SMALL DOUBLE|5SINGLE",
  "2BEND LARGE|3MEDIUM|3SMALL|2BOX LARGE|3MEDIUM|3SMALL|2CHECK LARGE|3MEDIUM|3SMALL|2CORNER LARGE",
  "3MEDIUM|3ROTATION|3SMALL|2CROSS|2CURVE HALF-CIRCLE LARGE|4LARGEST|4MEDIUM|4SMALL|3HITTING CHEST",
  "4FRONT WALL|3QUARTER LARGE|4LARGEST|4MEDIUM|4SMALL|3THEN STRAIGHT|3THREE-QUARTER CIRCLE MEDIUM",
  "5SMALL|2CURVED CROSS MEDIUM|4SMALL|2DOUBLE ALTERNATING|4WRIST FLEX|3STRAIGHT|3WRIST FLEX",
  "2FINGER CIRCLES DOUBLE|4SINGLE|3CONTACT|2HUMP HITTING CHEST|4FRONT WALL|3LARGE|3MEDIUM|3SMALL",
  "2JAW|2LOOP HITTING CHEST|4FRONT WALL|3LARGE|3MEDIUM|3SMALL|4DOUBLE|2PEAKS LARGE|3MEDIUM|3SMALL",
  "2SHAKING|2SINGLE STRAIGHT LARGE|4LARGEST|4MEDIUM|4SMALL|3WRIST FLEX|2TRIPLE ALTERNATING",
  "4WRIST FLEX|3STRAIGHT MOVEMENT|3WRIST FLEX|2WAVE CURVE DOUBLE LARGE|5MEDIUM|5SMALL",
  "4TRIPLE LARGE|5MEDIUM|5SMALL|3DIAGONAL PATH LARGE|5MEDIUM|5SMALL|3HITTING CHEST|4FRONT WALL",
  "2WRIST CIRCLE FRONT DOUBLE|5SINGLE|2ZIGZAG LARGE|3MEDIUM|3SMALL|1NECK|1NOSE CONTACT|2NEUTRAL",
  "2WIGGLES|2WRINKLES|1PARENTHESIS|1ROTATION MODIFIER-10|2MODIFIER-11|2MODIFIER-12|2MODIFIER-13",
  "2MODIFIER-14|2MODIFIER-15|2MODIFIER-16|2MODIFIER-2|2MODIFIER-3|2MODIFIER-4|2MODIFIER-5",
  "2MODIFIER-6|2MODIFIER-7|2MODIFIER-8|2MODIFIER-9|1ROTATION-FLOORPLANE ALTERNATING",
  "3HITTING CEILING|4FLOOR|2DOUBLE|3HITTING CEILING|4FLOOR|2SINGLE|3HITTING CEILING|4FLOOR",
  "1ROTATION-WALLPLANE ALTERNATE|2ALTERNATING HITTING CHEST|4FRONT WALL|2DOUBLE|3HITTING CHEST",
  "4FRONT WALL|2SINGLE|3HITTING CHEST|4FRONT WALL|1RUB BETWEEN|2MULTIPLE|2SINGLE|1SEMICOLON",
  "1SHOULDER HIP POSITIONS|3SPINE|2TILTING FROM WAIST|1SQUEEZE FLICK ALTERNATING|2LARGE MULTIPLE",
  "3SINGLE|2SEQUENTIAL|2SMALL MULTIPLE|3SINGLE|1STRIKE BETWEEN|2MULTIPLE|2SINGLE|1SURFACE BETWEEN",
  "2SYMBOLS|1TEETH|2BITE LIPS|2MOVEMENT|2ON LIPS|4MOVEMENT|3TONGUE|4MOVEMENT|1TENSE CHEEKS HIGH",
  "3LOW|3MIDDLE|1TONGUE CENTRE INSIDE MOUTH|3STICKING OUT|2INSIDE MOUTH RELAXED|2LICKING LIPS",
  "2MOVES AGAINST CHEEK|2STICKING OUT FAR|2TIP BETWEEN LIPS|3TOUCHING INSIDE MOUTH",
  "1TORSO-FLOORPLANE TWISTING|1TORSO-WALLPLANE CURVED BEND|2STRAIGHT STRETCH|1TOUCH BETWEEN",
  "2MULTIPLE|2SINGLE|1TRAVEL-FLOORPLANE ROTATION-FLOORPLANE ALTERNATING|3DOUBLE|3SINGLE",
  "2ROTATION-WALLPLANE ALTERNATING|3DOUBLE|3SINGLE|2SHAKING|1TRAVEL-WALLPLANE ARM SPIRAL DOUBLE",
  "4SINGLE|4TRIPLE|2ROTATION-FLOORPLANE ALTERNATING|3DOUBLE|3SINGLE",
  "2ROTATION-WALLPLANE ALTERNATING|3DOUBLE|3SINGLE|2SHAKING|1UPPER BODY TILTING FROM HIP JOINTS",
  "1WALLPLANE SHOULDER HIP MOVE|0SILHOUETTE OF JAPAN|0SIMILAR ABOVE GREATER-THAN ABOVE EQUALS SIGN",
  "2LESS-THAN ABOVE EQUALS SIGN|1MINUS SIMILAR|1OR GREATER-THAN|2LESS-THAN|0SINE WAVE",
  "0SINGLE CHARACTER INTRODUCER|1GRAPHIC CHARACTER INTRODUCER|1HIGH-REVERSED-9 QUOTATION MARK",
  "1LEFT-POINTING ANGLE QUOTATION MARK|1LOW-9 QUOTATION MARK|1RIGHT-POINTING ANGLE QUOTATION MARK",
  "1SHIFT THREE|2TWO|0SINGLE-SHIFT-2|0SINGLE-SHIFT-3|0SINHALA ARCHAIC DIGIT EIGHT|3FIVE|3FOUR",
  "3NINE|3ONE|3SEVEN|3SIX|3THREE|3TWO|2NUMBER EIGHTY|3FIFTY|3FORTY|3NINETY|3ONE HUNDRED|4THOUSAND",
  "3SEVENTY|3SIXTY|3TEN|3THIRTY|3TWENTY|1LETTER AAYANNA|2AEEYANNA|2AEYANNA|2AIYANNA",
  "2ALPAPRAANA BAYANNA|3CAYANNA|3DAYANNA|3DDAYANNA|3GAYANNA|3JAYANNA|3KAYANNA|3PAYANNA|3TAYANNA",
  "3TTAYANNA|2AMBA BAYANNA|2AUYANNA|2AYANNA|2DANTAJA LAYANNA|3NAYANNA|3SAYANNA|2EEYANNA|2EYANNA",
  "2FAYANNA|2HAYANNA|2IIYANNA|2ILUUYANNA|2ILUYANNA|2IRUUYANNA|2IRUYANNA|2IYANNA",
  "2KANTAJA NAASIKYAYA|2MAHAAPRAANA BAYANNA|3CAYANNA|3DAYANNA|3DDAYANNA|3GAYANNA|3JAYANNA|3KAYANNA",
  "3PAYANNA|3TAYANNA|3TTAYANNA|2MAYANNA|2MUURDHAJA LAYANNA|3NAYANNA|3SAYANNA|2OOYANNA|2OYANNA",
  "2RAYANNA|2SANYAKA DAYANNA|3DDAYANNA|3GAYANNA|3JAYANNA|2TAALUJA NAASIKYAYA|3SANYOOGA NAAKSIKYAYA",
  "3SAYANNA|2UUYANNA|2UYANNA|2VAYANNA|2YAYANNA|1LITH DIGIT EIGHT|3FIVE|3FOUR|3NINE|3ONE|3SEVEN",
  "3SIX|3THREE|3TWO|3ZERO|1PUNCTUATION KUNDDALIYA|1SIGN AL-LAKUNA|2ANUSVARAYA|2CANDRABINDU",
  "2VISARGAYA|1VOWEL SIGN AELA-PILLA|3DIGA AEDA-PILLA|4GAETTA-PILLA|4GAYANUKITTA|4IS-PILLA",
  "4KOMBUVA|4PAA-PILLA|3GAETTA-PILLA|3GAYANUKITTA|3KETTI AEDA-PILLA|4IS-PILLA|4PAA-PILLA",
  "3KOMBU DEKA|3KOMBUVA|4HAA AELA-PILLA|5DIGA AELA-PILLA|5GAYANUKITTA",
  "0SIX PETALLED BLACK AND WHITE FLORETTE|1POINTED BLACK STAR|2PINWHEEL STAR|2STAR WITH MIDDLE DOT",
  "0SIX-PER-EM SPACE|0SIXTEEN POINTED ASTERISK|0SKATEBOARD|0SKI AND SKI BOOT|0SKIER|0SKULL",
  "1AND CROSSBONES|0SKUNK|0SLANTED EQUAL TO OR GREATER-THAN|5WITH DOT INSIDE|4LESS-THAN",
  "5WITH DOT INSIDE|1NORTH ARROW WITH HOOKED HEAD|4HORIZONTAL TAIL|0SLAVONIC ASTERISK|0SLED",
  "0SLEEPING ACCOMMODATION|1FACE|1SYMBOL|0SLEEPY FACE|0SLEUTH OR SPY|0SLICE OF PIZZA",
  "0SLIGHTLY FROWNING FACE|1SMILING FACE|0SLOPE|0SLOPING LARGE AND|2OR|0SLOT MACHINE|0SLOTH",
  "0SMALL AIRPLANE|1AMPERSAND|1ASTERISK|1BLUE DIAMOND|1COLON|1COMMA|1COMMERCIAL AT",
  "1CONTAINS AS MEMBER|2WITH OVERBAR|3VERTICAL BAR AT END OF HORIZONTAL STROKE|1DOLLAR SIGN",
  "1ELEMENT OF|3WITH OVERBAR|4VERTICAL BAR AT END OF HORIZONTAL STROKE|1EM DASH|1EQUALS SIGN",
  "1EXCLAMATION MARK|1FULL STOP|1GREATER-THAN SIGN|1HYPHEN-MINUS|1IDEOGRAPHIC COMMA",
  "1LEFT CURLY BRACKET|2PARENTHESIS|2TORTOISE SHELL BRACKET|1LESS-THAN SIGN|1NUMBER SIGN",
  "1ORANGE DIAMOND|1PERCENT SIGN|1PLUS SIGN|1QUESTION MARK|1REVERSE SOLIDUS|1RIGHT CURLY BRACKET",
  "2PARENTHESIS|2TORTOISE SHELL BRACKET|1ROMAN NUMERAL EIGHT|3ELEVEN|3FIFTY|3FIVE|4HUNDRED|3FOUR",
  "3NINE|3ONE|4HUNDRED|4THOUSAND|3SEVEN|3SIX|3TEN|3THREE|3TWELVE|3TWO|1SEMICOLON|1TILDE",
  "1TWO DOTS OVER ONE DOT PUNCTUATION|1VEE WITH UNDERBAR|0SMALLER THAN|2OR EQUAL TO|0SMASH PRODUCT",
  "0SMILE|0SMILING CAT FACE WITH HEART-SHAPED EYES|4OPEN MOUTH|1FACE WITH HALO|3HEART-SHAPED EYES",
  "3HORNS|3OPEN MOUTH|5AND COLD SWEAT|6SMILING EYES|6TIGHTLY-CLOSED EYES|3SMILING EYES",
  "5AND HAND COVERING MOUTH|6THREE HEARTS|3SUNGLASSES|3TEAR|0SMIRKING FACE|0SMOKING SYMBOL|0SNAIL",
  "0SNAKE|0SNEEZING FACE|0SNOW CAPPED MOUNTAIN|0SNOWBOARDER|0SNOWFLAKE|0SNOWMAN|1WITHOUT SNOW|0SO",
  "0SOCCER BALL|0SOCKS|0SOFT HYPHEN|1ICE CREAM|1SHELL FLOPPY DISK|0SOFTBALL",
  "0SOFTWARE-FUNCTION SYMBOL|0SOGDIAN COMBINING CURVE ABOVE|3BELOW|2DOT ABOVE|3BELOW|2HOOK ABOVE",
  "3BELOW|2LONG HOOK BELOW|2RESH BELOW|2STROKE BELOW|2TWO DOTS ABOVE|4BELOW|1INDEPENDENT SHIN",
  "1LETTER ALEPH|2AYIN|2BETH|2FETH|2GIMEL|2HE|2HETH|2KAPH|2LAMEDH|2LESH|2MEM|2NUN|2PE|2RESH-AYIN",
  "2SADHE|2SAMEKH|2SHIN|2TAW|2WAW|2YODH|2ZAYIN|1NUMBER ONE|3HUNDRED|2TEN|2TWENTY",
  "1PUNCTUATION CIRCLE WITH DOT|2HALF CIRCLE WITH DOT|2TWO CIRCLES WITH DOTS|3VERTICAL BARS",
  "5WITH DOTS|0SOH|0SOLID QUILT SQUARE ORNAMENT|4IN BLACK SQUARE|0SOLIDUS|1WITH OVERBAR|0SOM SIGN",
  "0SOON WITH RIGHTWARDS ARROW ABOVE|0SORA SOMPENG DIGIT EIGHT|3FIVE|3FOUR|3NINE|3ONE|3SEVEN|3SIX",
  "3THREE|3TWO|3ZERO|2LETTER AH|3BAH|3CAH|3DAH|3EEH|3EH|3GAH|3HAH|3IH|3JAH|3KAH|3LAH|3MAE|3MAH",
  "3NAH|3NGAH|3NYAH|3OH|3PAH|3RAH|3SAH|3TAH|3UH|3VAH|3YAH|0SOS|0SOUND RECORDING COPYRIGHT",
  "0SOUTH EAST ARROW|3AND SOUTH WEST ARROW|3CROSSING NORTH EAST ARROW|3TO CORNER|3WITH HOOK",
  "2BLACK ARROW|2DOUBLE ARROW|2POINTING BUD|3LEAF|3VINE LEAF|2SANS-SERIF ARROW",
  "2TRIANGLE-HEADED ARROW|4TO BAR|2WHITE ARROW|1WEST ARROW|3AND NORTH WEST ARROW|3WITH HOOK",
  "2BLACK ARROW|2DOUBLE ARROW|2POINTING BUD|3LEAF|3VINE LEAF|2SANS-SERIF ARROW",
  "2TRIANGLE-HEADED ARROW|4TO BAR|2WHITE ARROW|0SOYOMBO CLUSTER-INITIAL LETTER LA|3RA|3SA|3SHA",
  "1FINAL CONSONANT SIGN -A|4B|4D|4G|4K|4L|4M|4N|4NG|4R|4S|4SH|1GEMINATION MARK",
  "1HEAD MARK WITH MOON AND SUN|7AND FLAME|8TRIPLE FLAME|1LETTER -A|2A|2BA|2BHA|2CA|2CHA|2DA|2DDA",
  "2DDHA|2DHA|2DZA|2GA|2GHA|2HA|2JA|2JHA|2KA|2KHA|2KSSA|2LA|2MA|2NA|2NGA|2NNA|2NYA|2PA|2PHA|2RA",
  "2SA|2SHA|2SSA|2TA|2THA|2TSA|2TSHA|2TTA|2TTHA|2VA|2YA|2ZA|2ZHA|1MARK DOUBLE SHAD|2PLUTA|2SHAD",
  "2TSHEG|1SIGN ANUSVARA|2JIHVAMULIYA|2UPADHMANIYA|2VISARGA|1SUBJOINER|1TERMINAL MARK-1|2MARK-2",
  "1VOWEL LENGTH MARK|2SIGN AI|3AU|3E|3I|3O|3OE|3U|3UE|3VOCALIC L|4R|0SP|0SPA|0SPACE|0SPAGHETTI",
  "0SPARKLE|0SPARKLES|0SPARKLING HEART|0SPEAK-NO-EVIL MONKEY|0SPEAKER|1WITH CANCELLATION STROKE",
  "2ONE SOUND WAVE|2THREE SOUND WAVES|0SPEAKING HEAD IN SILHOUETTE|0SPEECH BALLOON|0SPEEDBOAT",
  "0SPESMILO SIGN|0SPHERICAL ANGLE|2OPENING LEFT|3UP|0SPIDER|1WEB|0SPIRAL CALENDAR PAD|1NOTE PAD",
  "1SHELL|0SPLASHING SWEAT SYMBOL|0SPONGE|0SPOOL OF THREAD|0SPOON|0SPORTS MEDAL|0SPOUTING WHALE",
  "0SQUARE A OVER M|1AARU|1AM|1ANPEA|1APAATO|1ARUHUA|1AU|1BAARERU|1BAR|1BEETA|1BIRU|1BORUTO|1BQ",
  "1BUSSYERU|1C OVER KG|1CAL|1CAP|1CC|1CD|1CM|2CUBED|2SQUARED|1CO|1CORPORATION|1CUP|1DA|1DAASU|1DB",
  "1DESI|1DJ|1DL|1DM|2CUBED|2SQUARED|1DORU|1EEKAA|1ERA NAME HEISEI|3MEIZI|3REIWA|3SYOUWA|3TAISYOU",
  "1ERG|1ESUKUUDO|1EV|1FM|1FOOT|1FOUR CORNERS|1GAL|1GANMA|1GARON|1GB|1GHZ|1GIGA|1GINII|1GIRUDAA",
  "1GPA|1GURAMU|1GURAMUTON|1GY|1HA|1HAITU|1HEKUTAARU|1HERUTU|1HG|1HIRAGANA HOKA|1HON|1HOON|1HOORU",
  "1HP|1HPA|1HUARADDO|1HUIITO|1HURAN|1HZ|1IMAGE OF|3OR EQUAL TO|4NOT EQUAL TO|1IN|1ININGU|1INTI",
  "1IU|1K OHM|1KA|1KAIRI|1KARATTO|1KARORII|1KB|1KCAL|1KEESU|1KG|1KHZ|1KIRO|1KIROGURAMU",
  "1KIROMEETORU|1KIROWATTO|1KK|1KL|1KM|2CAPITAL|2CUBED|2SQUARED|1KOOPO|1KORUNA|1KPA|1KT|1KUROONE",
  "1KURUZEIRO|1KV|1KW|1KYURII|1LEFT OPEN BOX OPERATOR|1LM|1LN|1LOG|1LOZENGE|1LX|1M CUBED|2OHM",
  "2OVER S|4SQUARED|2SQUARED|1MA|1MAHHA|1MAIKURO|1MAIRU|1MANSYON|1MARUKU|1MB|2SMALL|1MEETORU|1MEGA",
  "1MEGATON|1MG|1MHZ|1MIKURON|1MIL|1MIRI|1MIRIBAARU|1ML|1MM|2CUBED|2SQUARED|1MOL|1MPA|1MS|1MU A|2F",
  "2G|2L|2M|2S|2V|2W|1MV|2MEGA|1MW|2MEGA|1NA|1NANO|1NF|1NM|1NOTTO|1NS|1NV|1NW|1ONSU|1OOMU",
  "1ORIGINAL OF|3OR EQUAL TO|4NOT EQUAL TO|1OV|1PA|2AMPS|1PAASENTO|1PAATU|1PC|1PEEZI|1PENIHI",
  "1PENSU|1PESO|1PF|1PH|1PIASUTORU|1PIKO|1PIKURU|1PM|1POINTO|1PONDO|1POSITION INDICATOR|1PPM|1PR",
  "1PS|1PV|1PW|1RAD|2OVER S|4SQUARED|1REMU|1RENTOGEN|1RIGHT OPEN BOX OPERATOR|1RIRA|1RITTORU|1ROOT",
  "1RUPII|1RUUBURU|1SAIKURU|1SANTIIMU|1SENTI|1SENTO|1SIRINGU|1SR|1SV|1TARGET|1THZ|1TON|1UON",
  "1V OVER M|1WATTO|1WB|1WITH BOTTOM HALF BLACK|2CONTOURED OUTLINE|2DIAGONAL CROSSHATCH FILL",
  "2HORIZONTAL FILL|2LEFT HALF BLACK|2LOWER LEFT DIAGONAL HALF BLACK|3RIGHT DIAGONAL HALF BLACK",
  "2ORTHOGONAL CROSSHATCH FILL|2RIGHT HALF BLACK|2TOP HALF BLACK|2UPPER LEFT DIAGONAL HALF BLACK",
  "4TO LOWER RIGHT FILL|3RIGHT DIAGONAL HALF BLACK|4TO LOWER LEFT FILL|2VERTICAL FILL|1YAADO",
  "1YAARU|1YUAN|0SQUARED ASTERISK|1CJK UNIFIED IDEOGRAPH-4E00|3IDEOGRAPH-4E09|3IDEOGRAPH-4E2D",
  "3IDEOGRAPH-4E8C|3IDEOGRAPH-4EA4|3IDEOGRAPH-518D|3IDEOGRAPH-521D|3IDEOGRAPH-524D|3IDEOGRAPH-5272",
  "3IDEOGRAPH-53CC|3IDEOGRAPH-53F3|3IDEOGRAPH-5408|3IDEOGRAPH-5439|3IDEOGRAPH-55B6|3IDEOGRAPH-58F0",
  "3IDEOGRAPH-591A|3IDEOGRAPH-5929|3IDEOGRAPH-5B57|3IDEOGRAPH-5DE6|3IDEOGRAPH-5F8C|3IDEOGRAPH-624B",
  "3IDEOGRAPH-6253|3IDEOGRAPH-6295|3IDEOGRAPH-6307|3IDEOGRAPH-6355|3IDEOGRAPH-6599|3IDEOGRAPH-65B0",
  "3IDEOGRAPH-6620|3IDEOGRAPH-6708|3IDEOGRAPH-6709|3IDEOGRAPH-6E80|3IDEOGRAPH-6F14|3IDEOGRAPH-7121",
  "3IDEOGRAPH-751F|3IDEOGRAPH-7533|3IDEOGRAPH-7981|3IDEOGRAPH-7A7A|3IDEOGRAPH-7D42|3IDEOGRAPH-89E3",
  "3IDEOGRAPH-8CA9|3IDEOGRAPH-8D70|3IDEOGRAPH-904A|3IDEOGRAPH-914D|1CL|1COOL|1DOT OPERATOR",
  "1EIGHT K|1FALLING DIAGONAL SLASH|1FIVE POINT ONE|1FOUR DOT PUNCTUATION|2K|1FREE|1HC|1HDR",
  "1HI-RES|1HV|1ID|1KATAKANA DE|2KOKO|2SA|1KEY|1LATIN CAPITAL LETTER A|4B|4C|4D|4E|4F|4G|4H|4I|4J",
  "4K|4L|4M|4N|4O|4P|4Q|4R|4S|4T|4U|4V|4W|4X|4Y|4Z|2SMALL LETTER D|1LOGICAL AND|2OR|1LOSSLESS",
  "1MINUS|1MV|1NEW|1NG|1OK|1ONE HUNDRED TWENTY P|1PLUS|1PPV|1RISING DIAGONAL SLASH|1SALTIRE|1SD",
  "1SECOND SCREEN|1SEVEN POINT ONE|1SHV|1SIXTY P|1SMALL CIRCLE|1SOS|1SQUARE|1SS|1THREE D|1TIMES",
  "1TWENTY-TWO POINT TWO|1TWO K|1UHD|1UP WITH EXCLAMATION MARK|1VOD|1VS|1WC",
  "0SQUAT BLACK RIGHTWARDS ARROW|0SQUID|0SS2|0SS3|0SSA|0ST|0STADIUM|0STAFF OF AESCULAPIUS|2HERMES",
  "0STAMPED ENVELOPE|0STANDING PERSON|0STAR AND CRESCENT|1EQUALS|1OF DAVID|1OPERATOR",
  "1WITH LEFT HALF BLACK|2RIGHT HALF BLACK|0START OF GUARDED AREA|2HEADING|2PROTECTED AREA",
  "2SELECTED AREA|2STRING|2TEXT|0STATION|0STATUE OF LIBERTY|0STEAM LOCOMOTIVE|0STEAMING BOWL",
  "0STENOGRAPHIC FULL STOP|0STETHOSCOPE|0STICK FIGURE|2LEANING LEFT|3RIGHT|2WITH ARMS RAISED",
  "3DRESS|0STOCK CHART|0STOPWATCH|0STRAIGHT RULER|0STRAIGHTNESS|0STRAWBERRY",
  "0STRESS OUTLINED WHITE STAR|0STRICTLY EQUIVALENT TO|0STRING TERMINATOR|0STS|0STUDIO MICROPHONE",
  "0STUFFED FLATBREAD|0STUPA|0STX|0SUB|0SUBSCRIPT EIGHT|1EQUALS SIGN|1FIVE|1FOUR|1LEFT PARENTHESIS",
  "1MINUS|1NINE|1ONE|1PLUS SIGN|1RIGHT PARENTHESIS|1SEVEN|1SIX|1THREE|1TWO|1ZERO",
  "0SUBSET ABOVE RIGHTWARDS ARROW|2SUBSET|2SUPERSET|1OF|2ABOVE ALMOST EQUAL TO|3EQUALS SIGN",
  "3NOT EQUAL TO|3TILDE OPERATOR|2OR EQUAL TO|5WITH DOT ABOVE|2WITH NOT EQUAL TO|1WITH DOT",
  "2MULTIPLICATION SIGN BELOW|2PLUS SIGN BELOW|0SUBSTITUTE|0SUCCEEDS|1ABOVE ALMOST EQUAL TO",
  "2EQUALS SIGN|2NOT ALMOST EQUAL TO|3EQUAL TO|2SINGLE-LINE EQUALS SIGN|3NOT EQUAL TO",
  "1BUT NOT EQUIVALENT TO|1OR EQUAL TO|2EQUIVALENT TO|1UNDER RELATION|0SUMMATION BOTTOM|1TOP",
  "1WITH INTEGRAL|0SUN|1BEHIND CLOUD|1WITH FACE|0SUNDANESE AVAGRAHA|1CONSONANT SIGN PAMINGKAL",
  "3PANYAKRA|3PANYIKU|3PASANGAN MA|4WA|1DIGIT EIGHT|2FIVE|2FOUR|2NINE|2ONE|2SEVEN|2SIX|2THREE|2TWO",
  "2ZERO|1LETTER A|2AE|2BA|2BHA|2CA|2DA|2E|2EU|2FA|2FINAL K|3M|2GA|2HA|2I|2JA|2KA|2KHA|2LA|2LEU",
  "2MA|2NA|2NGA|2NYA|2O|2PA|2QA|2RA|2REU|2SA|2SYA|2TA|2U|2VA|2WA|2XA|2YA|2ZA",
  "1PUNCTUATION BINDU BA SATANGA|3CAKRA|3DA SATANGA|3KA SATANGA|3LEU SATANGA|3PANGLONG|3PURNAMA",
  "3SURYA|1SIGN PAMAAEH|2PANGLAYAR|2PANGWISAD|2PANYECEK|2VIRAMA|1VOWEL SIGN PAMEPET|3PANAELAENG",
  "3PANEULEUNG|3PANGHULU|3PANOLONG|3PANYUKU|0SUNFLOWER|0SUNRISE|1OVER MOUNTAINS",
  "0SUNSET OVER BUILDINGS|0SUPERHERO|0SUPERSCRIPT EIGHT|1EQUALS SIGN|1FIVE|1FOUR",
  "1LATIN SMALL LETTER I|4N|1LEFT PARENTHESIS|1MINUS|1NINE|1ONE|1PLUS SIGN|1RIGHT PARENTHESIS",
  "1SEVEN|1SIX|1THREE|1TWO|1ZERO|0SUPERSET ABOVE LEFTWARDS ARROW|2SUBSET|2SUPERSET",
  "1BESIDE AND JOINED BY DASH WITH SUBSET|2SUBSET|1OF|2ABOVE ALMOST EQUAL TO|3EQUALS SIGN",
  "3NOT EQUAL TO|3TILDE OPERATOR|2OR EQUAL TO|5WITH DOT ABOVE|2WITH NOT EQUAL TO",
  "1PRECEDING SOLIDUS|1WITH DOT|2MULTIPLICATION SIGN BELOW|2PLUS SIGN BELOW|0SUPERVILLAIN",
  "0SURFACE INTEGRAL|0SURFER|0SUSHI|0SUSPENSION RAILWAY|0SWAN|0SWASH AMPERSAND ORNAMENT|0SWIMMER",
  "0SWUNG DASH|0SYLOTI NAGRI LETTER A|3BHO|3BO|3CHO|3CO|3DDHO|3DDO|3DHO|3DO|3E|3GHO|3GO|3HO|3I",
  "3JHO|3JO|3KHO|3KO|3LO|3MO|3NO|3O|3PHO|3PO|3RO|3RRO|3SO|3THO|3TO|3TTHO|3TTO|3U|2POETRY MARK-1",
  "3MARK-2|3MARK-3|3MARK-4|2SIGN ALTERNATE HASANTA|3ANUSVARA|3DVISVARA|3HASANTA|2VOWEL SIGN A|4E",
  "4I|4OO|4U|0SYMBOL FOR ACKNOWLEDGE|2BACKSPACE|2BELL|2CANCEL|2CARRIAGE RETURN|2DATA LINK ESCAPE",
  "2DELETE|3FORM TWO|2DEVICE CONTROL FOUR|4ONE|4THREE|4TWO|2END OF MEDIUM|4TEXT|4TRANSMISSION",
  "5BLOCK|2ENQUIRY|2ESCAPE|2FILE SEPARATOR|2FORM FEED|2GROUP SEPARATOR|2HORIZONTAL TABULATION",
  "2LINE FEED|2MARKS CHAPTER|2NEGATIVE ACKNOWLEDGE|2NEWLINE|2NULL|2RECORD SEPARATOR",
  "2SAMARITAN SOURCE|2SHIFT IN|3OUT|2SPACE|2START OF HEADING|4TEXT|2SUBSTITUTE|3FORM TWO",
  "2SYNCHRONOUS IDLE|2TYPE A ELECTRONICS|2UNIT SEPARATOR|2VERTICAL TABULATION|0SYMMETRY|0SYN",
  "0SYNAGOGUE|0SYNCHRONOUS IDLE|0SYRIAC ABBREVIATION MARK|1BARREKH|1COLON SKEWED LEFT|3RIGHT",
  "1CONTRACTION|1DOTTED ZLAMA ANGULAR|3HORIZONTAL|1END OF PARAGRAPH|1ESASA ABOVE|2BELOW",
  "1FEMININE DOT|1HARKLEAN ASTERISCUS|2METOBELUS|2OBELUS|1HBASA ABOVE|2BELOW|1HBASA-ESASA DOTTED",
  "1HORIZONTAL COLON|1LETTER ALAPH|2BETH|2DALATH|2DOTLESS DALATH RISH|2E|2FINAL SEMKATH|2GAMAL",
  "3GARSHUNI|2HE|2HETH|2KAPH|2LAMADH|2MALAYALAM BHA|3JA|3LLA|3LLLA|3NGA|3NNA|3NNNA|3NYA|3RA|3SSA",
  "3TTA|2MIM|2NUN|2PE|2PERSIAN BHETH|3DHALATH|3GHAMAL|2QAPH|2REVERSED PE|2RISH|2SADHE|2SEMKATH",
  "2SHIN|2SOGDIAN FE|3KHAPH|3ZHAIN|2SUPERSCRIPT ALAPH|2TAW|2TETH|3GARSHUNI|2WAW|2YUDH|3HE|2ZAIN",
  "1MUSIC|1OBLIQUE LINE ABOVE|3BELOW|1PTHAHA ABOVE|2BELOW|2DOTTED|1QUSHSHAYA|1RBASA ABOVE|2BELOW",
  "1RUKKAKHA|1RWAHA|1SUBLINEAR COLON|3SKEWED LEFT|4RIGHT|2FULL STOP|1SUPRALINEAR COLON",
  "3SKEWED LEFT|2FULL STOP|1THREE DOTS ABOVE|3BELOW|1TWO VERTICAL DOTS ABOVE|4BELOW|1ZQAPHA ABOVE",
  "2BELOW|2DOTTED|0SYRINGE|0T-REX|0T-SHIRT|0TAB|0TABLE TENNIS PADDLE AND BALL|0TACO|0TAG AMPERSAND",
  "1APOSTROPHE|1ASTERISK|1CIRCUMFLEX ACCENT|1COLON|1COMMA|1COMMERCIAL AT|1DIGIT EIGHT|2FIVE|2FOUR",
  "2NINE|2ONE|2SEVEN|2SIX|2THREE|2TWO|2ZERO|1DOLLAR SIGN|1EQUALS SIGN|1EXCLAMATION MARK|1FULL STOP",
  "1GRAVE ACCENT|1GREATER-THAN SIGN|1HYPHEN-MINUS|1LATIN CAPITAL LETTER A|4B|4C|4D|4E|4F|4G|4H|4I",
  "4J|4K|4L|4M|4N|4O|4P|4Q|4R|4S|4T|4U|4V|4W|4X|4Y|4Z|2SMALL LETTER A|4B|4C|4D|4E|4F|4G|4H|4I|4J",
  "4K|4L|4M|4N|4O|4P|4Q|4R|4S|4T|4U|4V|4W|4X|4Y|4Z|1LEFT CURLY BRACKET|2PARENTHESIS",
  "2SQUARE BRACKET|1LESS-THAN SIGN|1LOW LINE|1NUMBER SIGN|1PERCENT SIGN|1PLUS SIGN|1QUESTION MARK",
  "1QUOTATION MARK|1REVERSE SOLIDUS|1RIGHT CURLY BRACKET|2PARENTHESIS|2SQUARE BRACKET|1SEMICOLON",
  "1SOLIDUS|1SPACE|1TILDE|1VERTICAL LINE|0TAGALOG LETTER A|2ARCHAIC RA|2BA|2DA|2GA|2HA|2I|2KA|2LA",
  "2MA|2NA|2NGA|2PA|2RA|2SA|2TA|2U|2WA|2YA|1SIGN PAMUDPOD|2VIRAMA|1VOWEL SIGN I|3U",
  "0TAGBANWA LETTER A|2BA|2DA|2GA|2I|2KA|2LA|2MA|2NA|2NGA|2PA|2SA|2TA|2U|2WA|2YA|1VOWEL SIGN I|3U",
  "0TAI LE LETTER A|3AI|3AUE|3E|3EE|3EH|3FA|3HA|3I|3KA|3KHA|3LA|3MA|3NA|3NGA|3O|3OO|3PA|3PHA|3QA",
  "3SA|3TA|3THA|3TONE-2|3TONE-3|3TONE-4|3TONE-5|3TONE-6|3TSA|3TSHA|3U|3UE|3VA|3XA|3YA",
  "1THAM COMBINING CRYPTOGRAMMIC DOT|2CONSONANT SIGN BA|4FINAL NGA|4HIGH RATHA OR LOW PA",
  "4LA TANG LAI|4LOW PA|4MA|4MEDIAL LA|5RA|4SA|2HORA DIGIT EIGHT|4FIVE|4FOUR|4NINE|4ONE|4SEVEN",
  "4SIX|4THREE|4TWO|4ZERO|2LETTER A|3BA|3DA|3EE|3GREAT SA|3HIGH CA|4CHA|4FA|4HA|4KA|4KHA|4KXA|4PA",
  "4PHA|4RATHA|4SA|4SHA|4SSA|4TA|4THA|4YA|3I|3II|3LA|3LAE|3LLA|3LOW CA|4CHA|4FA|4HA|4KA|4KHA|4KXA",
  "4PA|4PHA|4RATHA|4SA|4TA|4THA|4YA|3LUE|3MA|3NA|3NGA|3NYA|3OO|3RA|3RANA|3RATA|3RUE|3U|3UU|3WA",
  "2SIGN CAANG|3DOKMAI|3HANG|3HOY|3KAAN|3KAANKUU|3KEOW|3KHUEN TONE-3|4TONE-4|4TONE-5",
  "3KHUEN-LUE KARAN|3MAI KANG|5LAI|4SAM|4YAMOK|3RA HAAM|3REVERSED ROTATED RANA|3SAKOT|3SATKAAN",
  "3SATKAANKUU|3SAWAN|3TONE-1|3TONE-2|3WIANG|3WIANGWAAK|2THAM DIGIT EIGHT|4FIVE|4FOUR|4NINE|4ONE",
  "4SEVEN|4SIX|4THREE|4TWO|4ZERO|2VOWEL SIGN A|4AA|4AE|4AI|4E|4I|4II|4MAI SAT|4O|4OA ABOVE|5BELOW",
  "4OO|4OY|4TALL AA|4THAM AI|4U|4UE|4UU|4UUE|1VIET LETTER HIGH BO|4CHO|4CO|4DO|4FO|4GO|4HO|4KHHO",
  "4KHO|4KO|4LO|4MO|4NGO|4NO|4NYO|4O|4PHO|4PO|4RO|4SO|4THO|4TO|4VO|4YO|3LOW BO|4CHO|4CO|4DO|4FO",
  "4GO|4HO|4KHHO|4KHO|4KO|4LO|4MO|4NGO|4NO|4NYO|4O|4PHO|4PO|4RO|4SO|4THO|4TO|4VO|4YO|2MAI KANG",
  "3KHIT|2SYMBOL HO HOI|3KOI KOI|3KON|3NUENG|3SAM|2TONE MAI EK|4NUENG|4SONG|4THO|2VOWEL AA|3AM|3AN",
  "3AUE|3AY|3E|3I|3IA|3O|3U|3UA|3UE|3UEA|0TAKEOUT BOX|0TAKRI ABBREVIATION SIGN|1DIGIT EIGHT|2FIVE",
  "2FOUR|2NINE|2ONE|2SEVEN|2SIX|2THREE|2TWO|2ZERO|1LETTER A|2AA|2AI|2ARCHAIC KHA|2AU|2BA|2BHA|2CA",
  "2CHA|2DA|2DDA|2DDHA|2DHA|2E|2GA|2GHA|2HA|2I|2II|2JA|2JHA|2KA|2KHA|2LA|2MA|2NA|2NGA|2NNA|2NYA|2O",
  "2PA|2PHA|2RA|2RRA|2SA|2SHA|2TA|2THA|2TTA|2TTHA|2U|2UU|2VA|2YA|1SIGN ANUSVARA|2NUKTA|2VIRAMA",
  "2VISARGA|1VOWEL SIGN AA|3AI|3AU|3E|3I|3II|3O|3U|3UU|0TALLY MARK FIVE|2ONE|0TAMALE",
  "0TAMIL AND ODD SIGN|1AS ABOVE SIGN|1AU LENGTH MARK|1CREDIT SIGN|1CURRENT SIGN|1DAY SIGN",
  "1DEBIT SIGN|1DIGIT EIGHT|2FIVE|2FOUR|2NINE|2ONE|2SEVEN|2SIX|2THREE|2TWO|2ZERO",
  "1DRY CULTIVATION SIGN|1FRACTION DOWNSCALING FACTOR KIIZH|2ONE EIGHTH|3EIGHTIETH|3FIFTH",
  "3FORTIETH|3HALF-1|3HALF-2|3ONE-HUNDRED-AND-SIXTIETH|3QUARTER|3SIXTEENTH-1|3SIXTEENTH-2",
  "3SIXTY-FOURTH|3TENTH|3THIRTY-SECOND|3THREE-HUNDRED-AND-TWENTIETH|3TWENTIETH|2THREE EIGHTIETHS",
  "3QUARTERS|3SIXTEENTHS|3SIXTY-FOURTHS|3TWENTIETHS|1IN POSSESSION SIGN|1LAND SIGN|1LETTER A|2AA",
  "2AI|2AU|2CA|2E|2EE|2HA|2I|2II|2JA|2KA|2LA|2LLA|2LLLA|2MA|2NA|2NGA|2NNA|2NNNA|2NYA|2O|2OO|2PA",
  "2RA|2RRA|2SA|2SHA|2SSA|2TA|2TTA|2U|2UU|2VA|2YA|1MONTH SIGN|1NUMBER ONE HUNDRED|3THOUSAND|2SIGN",
  "2TEN|1OM|1PUNCTUATION END OF TEXT|1RUPEE SIGN|1SALT PAN SIGN|1SIGN AAZHAAKKU|2ANUSVARA|2CEVITU",
  "2KAACU|2KURUNI|2KUZHI|2MUKKURUNI|2MUTHALIYA|2MUUVUZHAKKU|2NEL|2PAARAM|2PANAM|2PATHAKKU|2PON",
  "2UZHAKKU|2VAKAIYARAA|2VARAAKAN|2VELI|2VIRAMA|2VISARGA|1SPENT SIGN|1STARTING FROM SIGN",
  "1TOTAL SIGN|1TRADITIONAL CREDIT SIGN|2NUMBER SIGN|1VOWEL SIGN AA|3AI|3AU|3E|3EE|3I|3II|3O|3OO",
  "3U|3UU|1WET CULTIVATION SIGN|1YEAR SIGN|0TANABATA TREE|0TANGERINE|0TANGSA DIGIT EIGHT|2FIVE",
  "2FOUR|2NINE|2ONE|2SEVEN|2SIX|2THREE|2TWO|2ZERO|1LETTER AC|2AQ|2AWC|2AWQ|2AWX|2AWZ|2AX|2AZ|2BA",
  "2CA|2CHA|2DA|2DHA|2EC|2EQ|2EX|2EZ|2FA|2FINAL NG|2GA|2GHA|2HA|2HTA|2HTTA|2IC|2IQ|2IX|2IZ|2KA",
  "2KHA|2LA|2LONG UEX|2MA|2MC|2MQ|2MX|2MZ|2NA|2NGA|2NHA|2NYA|2OC|2OQ|2OX|2OZ|2PA|2PHA|2RA|2SA|2SHA",
  "2SHORT AWX|3UEZ|2TA|2THA|2TSA|2UC|2UEC|2UEQ|2UEX|2UEZ|2UIC|2UIQ|2UIUC|2UIUQ|2UIUX|2UIUZ|2UIX",
  "2UIZ|2UQ|2UX|2UZ|2VC|2VQ|2VX|2VZ|2WA|2XA|2YA|2ZA|0TANGUT COMPONENT-001|1COMPONENT-002",
  "1COMPONENT-003|1COMPONENT-004|1COMPONENT-005|1COMPONENT-006|1COMPONENT-007|1COMPONENT-008",
  "1COMPONENT-009|1COMPONENT-010|1COMPONENT-011|1COMPONENT-012|1COMPONENT-013|1COMPONENT-014",
  "1COMPONENT-015|1COMPONENT-016|1COMPONENT-017|1COMPONENT-018|1COMPONENT-019|1COMPONENT-020",
  "1COMPONENT-021|1COMPONENT-022|1COMPONENT-023|1COMPONENT-024|1COMPONENT-025|1COMPONENT-026",
  "1COMPONENT-027|1COMPONENT-028|1COMPONENT-029|1COMPONENT-030|1COMPONENT-031|1COMPONENT-032",
  "1COMPONENT-033|1COMPONENT-034|1COMPONENT-035|1COMPONENT-036|1COMPONENT-037|1COMPONENT-038",
  "1COMPONENT-039|1COMPONENT-040|1COMPONENT-041|1COMPONENT-042|1COMPONENT-043|1COMPONENT-044",
  "1COMPONENT-045|1COMPONENT-046|1COMPONENT-047|1COMPONENT-048|1COMPONENT-049|1COMPONENT-050",
  "1COMPONENT-051|1COMPONENT-052|1COMPONENT-053|1COMPONENT-054|1COMPONENT-055|1COMPONENT-056",
  "1COMPONENT-057|1COMPONENT-058|1COMPONENT-059|1COMPONENT-060|1COMPONENT-061|1COMPONENT-062",
  "1COMPONENT-063|1COMPONENT-064|1COMPONENT-065|1COMPONENT-066|1COMPONENT-067|1COMPONENT-068",
  "1COMPONENT-069|1COMPONENT-070|1COMPONENT-071|1COMPONENT-072|1COMPONENT-073|1COMPONENT-074",
  "1COMPONENT-075|1COMPONENT-076|1COMPONENT-077|1COMPONENT-078|1COMPONENT-079|1COMPONENT-080",
  "1COMPONENT-081|1COMPONENT-082|1COMPONENT-083|1COMPONENT-084|1COMPONENT-085|1COMPONENT-086",
  "1COMPONENT-087|1COMPONENT-088|1COMPONENT-089|1COMPONENT-090|1COMPONENT-091|1COMPONENT-092",
  "1COMPONENT-093|1COMPONENT-094|1COMPONENT-095|1COMPONENT-096|1COMPONENT-097|1COMPONENT-098",
  "1COMPONENT-099|1COMPONENT-100|1COMPONENT-101|1COMPONENT-102|1COMPONENT-103|1COMPONENT-104",
  "1COMPONENT-105|1COMPONENT-106|1COMPONENT-107|1COMPONENT-108|1COMPONENT-109|1COMPONENT-110",
  "1COMPONENT-111|1COMPONENT-112|1COMPONENT-113|1COMPONENT-114|1COMPONENT-115|1COMPONENT-116",
  "1COMPONENT-117|1COMPONENT-118|1COMPONENT-119|1COMPONENT-120|1COMPONENT-121|1COMPONENT-122",
  "1COMPONENT-123|1COMPONENT-124|1COMPONENT-125|1COMPONENT-126|1COMPONENT-127|1COMPONENT-128",
  "1COMPONENT-129|1COMPONENT-130|1COMPONENT-131|1COMPONENT-132|1COMPONENT-133|1COMPONENT-134",
  "1COMPONENT-135|1COMPONENT-136|1COMPONENT-137|1COMPONENT-138|1COMPONENT-139|1COMPONENT-140",
  "1COMPONENT-141|1COMPONENT-142|1COMPONENT-143|1COMPONENT-144|1COMPONENT-145|1COMPONENT-146",
  "1COMPONENT-147|1COMPONENT-148|1COMPONENT-149|1COMPONENT-150|1COMPONENT-151|1COMPONENT-152",
  "1COMPONENT-153|1COMPONENT-154|1COMPONENT-155|1COMPONENT-156|1COMPONENT-157|1COMPONENT-158",
  "1COMPONENT-159|1COMPONENT-160|1COMPONENT-161|1COMPONENT-162|1COMPONENT-163|1COMPONENT-164",
  "1COMPONENT-165|1COMPONENT-166|1COMPONENT-167|1COMPONENT-168|1COMPONENT-169|1COMPONENT-170",
  "1COMPONENT-171|1COMPONENT-172|1COMPONENT-173|1COMPONENT-174|1COMPONENT-175|1COMPONENT-176",
  "1COMPONENT-177|1COMPONENT-178|1COMPONENT-179|1COMPONENT-180|1COMPONENT-181|1COMPONENT-182",
  "1COMPONENT-183|1COMPONENT-184|1COMPONENT-185|1COMPONENT-186|1COMPONENT-187|1COMPONENT-188",
  "1COMPONENT-189|1COMPONENT-190|1COMPONENT-191|1COMPONENT-192|1COMPONENT-193|1COMPONENT-194",
  "1COMPONENT-195|1COMPONENT-196|1COMPONENT-197|1COMPONENT-198|1COMPONENT-199|1COMPONENT-200",
  "1COMPONENT-201|1COMPONENT-202|1COMPONENT-203|1COMPONENT-204|1COMPONENT-205|1COMPONENT-206",
  "1COMPONENT-207|1COMPONENT-208|1COMPONENT-209|1COMPONENT-210|1COMPONENT-211|1COMPONENT-212",
  "1COMPONENT-213|1COMPONENT-214|1COMPONENT-215|1COMPONENT-216|1COMPONENT-217|1COMPONENT-218",
  "1COMPONENT-219|1COMPONENT-220|1COMPONENT-221|1COMPONENT-222|1COMPONENT-223|1COMPONENT-224",
  "1COMPONENT-225|1COMPONENT-226|1COMPONENT-227|1COMPONENT-228|1COMPONENT-229|1COMPONENT-230",
  "1COMPONENT-231|1COMPONENT-232|1COMPONENT-233|1COMPONENT-234|1COMPONENT-235|1COMPONENT-236",
  "1COMPONENT-237|1COMPONENT-238|1COMPONENT-239|1COMPONENT-240|1COMPONENT-241|1COMPONENT-242",
  "1COMPONENT-243|1COMPONENT-244|1COMPONENT-245|1COMPONENT-246|1COMPONENT-247|1COMPONENT-248",
  "1COMPONENT-249|1COMPONENT-250|1COMPONENT-251|1COMPONENT-252|1COMPONENT-253|1COMPONENT-254",
  "1COMPONENT-255|1COMPONENT-256|1COMPONENT-257|1COMPONENT-258|1COMPONENT-259|1COMPONENT-260",
  "1COMPONENT-261|1COMPONENT-262|1COMPONENT-263|1COMPONENT-264|1COMPONENT-265|1COMPONENT-266",
  "1COMPONENT-267|1COMPONENT-268|1COMPONENT-269|1COMPONENT-270|1COMPONENT-271|1COMPONENT-272",
  "1COMPONENT-273|1COMPONENT-274|1COMPONENT-275|1COMPONENT-276|1COMPONENT-277|1COMPONENT-278",
  "1COMPONENT-279|1COMPONENT-280|1COMPONENT-281|1COMPONENT-282|1COMPONENT-283|1COMPONENT-284",
  "1COMPONENT-285|1COMPONENT-286|1COMPONENT-287|1COMPONENT-288|1COMPONENT-289|1COMPONENT-290",
  "1COMPONENT-291|1COMPONENT-292|1COMPONENT-293|1COMPONENT-294|1COMPONENT-295|1COMPONENT-296",
  "1COMPONENT-297|1COMPONENT-298|1COMPONENT-299|1COMPONENT-300|1COMPONENT-301|1COMPONENT-302",
  "1COMPONENT-303|1COMPONENT-304|1COMPONENT-305|1COMPONENT-306|1COMPONENT-307|1COMPONENT-308",
  "1COMPONENT-309|1COMPONENT-310|1COMPONENT-311|1COMPONENT-312|1COMPONENT-313|1COMPONENT-314",
  "1COMPONENT-315|1COMPONENT-316|1COMPONENT-317|1COMPONENT-318|1COMPONENT-319|1COMPONENT-320",
  "1COMPONENT-321|1COMPONENT-322|1COMPONENT-323|1COMPONENT-324|1COMPONENT-325|1COMPONENT-326",
  "1COMPONENT-327|1COMPONENT-328|1COMPONENT-329|1COMPONENT-330|1COMPONENT-331|1COMPONENT-332",
  "1COMPONENT-333|1COMPONENT-334|1COMPONENT-335|1COMPONENT-336|1COMPONENT-337|1COMPONENT-338",
  "1COMPONENT-339|1COMPONENT-340|1COMPONENT-341|1COMPONENT-342|1COMPONENT-343|1COMPONENT-344",
  "1COMPONENT-345|1COMPONENT-346|1COMPONENT-347|1COMPONENT-348|1COMPONENT-349|1COMPONENT-350",
  "1COMPONENT-351|1COMPONENT-352|1COMPONENT-353|1COMPONENT-354|1COMPONENT-355|1COMPONENT-356",
  "1COMPONENT-357|1COMPONENT-358|1COMPONENT-359|1COMPONENT-360|1COMPONENT-361|1COMPONENT-362",
  "1COMPONENT-363|1COMPONENT-364|1COMPONENT-365|1COMPONENT-366|1COMPONENT-367|1COMPONENT-368",
  "1COMPONENT-369|1COMPONENT-370|1COMPONENT-371|1COMPONENT-372|1COMPONENT-373|1COMPONENT-374",
  "1COMPONENT-375|1COMPONENT-376|1COMPONENT-377|1COMPONENT-378|1COMPONENT-379|1COMPONENT-380",
  "1COMPONENT-381|1COMPONENT-382|1COMPONENT-383|1COMPONENT-384|1COMPONENT-385|1COMPONENT-386",
  "1COMPONENT-387|1COMPONENT-388|1COMPONENT-389|1COMPONENT-390|1COMPONENT-391|1COMPONENT-392",
  "1COMPONENT-393|1COMPONENT-394|1COMPONENT-395|1COMPONENT-396|1COMPONENT-397|1COMPONENT-398",
  "1COMPONENT-399|1COMPONENT-400|1COMPONENT-401|1COMPONENT-402|1COMPONENT-403|1COMPONENT-404",
  "1COMPONENT-405|1COMPONENT-406|1COMPONENT-407|1COMPONENT-408|1COMPONENT-409|1COMPONENT-410",
  "1COMPONENT-411|1COMPONENT-412|1COMPONENT-413|1COMPONENT-414|1COMPONENT-415|1COMPONENT-416",
  "1COMPONENT-417|1COMPONENT-418|1COMPONENT-419|1COMPONENT-420|1COMPONENT-421|1COMPONENT-422",
  "1COMPONENT-423|1COMPONENT-424|1COMPONENT-425|1COMPONENT-426|1COMPONENT-427|1COMPONENT-428",
  "1COMPONENT-429|1COMPONENT-430|1COMPONENT-431|1COMPONENT-432|1COMPONENT-433|1COMPONENT-434",
  "1COMPONENT-435|1COMPONENT-436|1COMPONENT-437|1COMPONENT-438|1COMPONENT-439|1COMPONENT-440",
  "1COMPONENT-441|1COMPONENT-442|1COMPONENT-443|1COMPONENT-444|1COMPONENT-445|1COMPONENT-446",
  "1COMPONENT-447|1COMPONENT-448|1COMPONENT-449|1COMPONENT-450|1COMPONENT-451|1COMPONENT-452",
  "1COMPONENT-453|1COMPONENT-454|1COMPONENT-455|1COMPONENT-456|1COMPONENT-457|1COMPONENT-458",
  "1COMPONENT-459|1COMPONENT-460|1COMPONENT-461|1COMPONENT-462|1COMPONENT-463|1COMPONENT-464",
  "1COMPONENT-465|1COMPONENT-466|1COMPONENT-467|1COMPONENT-468|1COMPONENT-469|1COMPONENT-470",
  "1COMPONENT-471|1COMPONENT-472|1COMPONENT-473|1COMPONENT-474|1COMPONENT-475|1COMPONENT-476",
  "1COMPONENT-477|1COMPONENT-478|1COMPONENT-479|1COMPONENT-480|1COMPONENT-481|1COMPONENT-482",
  "1COMPONENT-483|1COMPONENT-484|1COMPONENT-485|1COMPONENT-486|1COMPONENT-487|1COMPONENT-488",
  "1COMPONENT-489|1COMPONENT-490|1COMPONENT-491|1COMPONENT-492|1COMPONENT-493|1COMPONENT-494",
  "1COMPONENT-495|1COMPONENT-496|1COMPONENT-497|1COMPONENT-498|1COMPONENT-499|1COMPONENT-500",
  "1COMPONENT-501|1COMPONENT-502|1COMPONENT-503|1COMPONENT-504|1COMPONENT-505|1COMPONENT-506",
  "1COMPONENT-507|1COMPONENT-508|1COMPONENT-509|1COMPONENT-510|1COMPONENT-511|1COMPONENT-512",
  "1COMPONENT-513|1COMPONENT-514|1COMPONENT-515|1COMPONENT-516|1COMPONENT-517|1COMPONENT-518",
  "1COMPONENT-519|1COMPONENT-520|1COMPONENT-521|1COMPONENT-522|1COMPONENT-523|1COMPONENT-524",
  "1COMPONENT-525|1COMPONENT-526|1COMPONENT-527|1COMPONENT-528|1COMPONENT-529|1COMPONENT-530",
  "1COMPONENT-531|1COMPONENT-532|1COMPONENT-533|1COMPONENT-534|1COMPONENT-535|1COMPONENT-536",
  "1COMPONENT-537|1COMPONENT-538|1COMPONENT-539|1COMPONENT-540|1COMPONENT-541|1COMPONENT-542",
  "1COMPONENT-543|1COMPONENT-544|1COMPONENT-545|1COMPONENT-546|1COMPONENT-547|1COMPONENT-548",
  "1COMPONENT-549|1COMPONENT-550|1COMPONENT-551|1COMPONENT-552|1COMPONENT-553|1COMPONENT-554",
  "1COMPONENT-555|1COMPONENT-556|1COMPONENT-557|1COMPONENT-558|1COMPONENT-559|1COMPONENT-560",
  "1COMPONENT-561|1COMPONENT-562|1COMPONENT-563|1COMPONENT-564|1COMPONENT-565|1COMPONENT-566",
  "1COMPONENT-567|1COMPONENT-568|1COMPONENT-569|1COMPONENT-570|1COMPONENT-571|1COMPONENT-572",
  "1COMPONENT-573|1COMPONENT-574|1COMPONENT-575|1COMPONENT-576|1COMPONENT-577|1COMPONENT-578",
  "1COMPONENT-579|1COMPONENT-580|1COMPONENT-581|1COMPONENT-582|1COMPONENT-583|1COMPONENT-584",
  "1COMPONENT-585|1COMPONENT-586|1COMPONENT-587|1COMPONENT-588|1COMPONENT-589|1COMPONENT-590",
  "1COMPONENT-591|1COMPONENT-592|1COMPONENT-593|1COMPONENT-594|1COMPONENT-595|1COMPONENT-596",
  "1COMPONENT-597|1COMPONENT-598|1COMPONENT-599|1COMPONENT-600|1COMPONENT-601|1COMPONENT-602",
  "1COMPONENT-603|1COMPONENT-604|1COMPONENT-605|1COMPONENT-606|1COMPONENT-607|1COMPONENT-608",
  "1COMPONENT-609|1COMPONENT-610|1COMPONENT-611|1COMPONENT-612|1COMPONENT-613|1COMPONENT-614",
  "1COMPONENT-615|1COMPONENT-616|1COMPONENT-617|1COMPONENT-618|1COMPONENT-619|1COMPONENT-620",
  "1COMPONENT-621|1COMPONENT-622|1COMPONENT-623|1COMPONENT-624|1COMPONENT-625|1COMPONENT-626",
  "1COMPONENT-627|1COMPONENT-628|1COMPONENT-629|1COMPONENT-630|1COMPONENT-631|1COMPONENT-632",
  "1COMPONENT-633|1COMPONENT-634|1COMPONENT-635|1COMPONENT-636|1COMPONENT-637|1COMPONENT-638",
  "1COMPONENT-639|1COMPONENT-640|1COMPONENT-641|1COMPONENT-642|1COMPONENT-643|1COMPONENT-644",
  "1COMPONENT-645|1COMPONENT-646|1COMPONENT-647|1COMPONENT-648|1COMPONENT-649|1COMPONENT-650",
  "1COMPONENT-651|1COMPONENT-652|1COMPONENT-653|1COMPONENT-654|1COMPONENT-655|1COMPONENT-656",
  "1COMPONENT-657|1COMPONENT-658|1COMPONENT-659|1COMPONENT-660|1COMPONENT-661|1COMPONENT-662",
  "1COMPONENT-663|1COMPONENT-664|1COMPONENT-665|1COMPONENT-666|1COMPONENT-667|1COMPONENT-668",
  "1COMPONENT-669|1COMPONENT-670|1COMPONENT-671|1COMPONENT-672|1COMPONENT-673|1COMPONENT-674",
  "1COMPONENT-675|1COMPONENT-676|1COMPONENT-677|1COMPONENT-678|1COMPONENT-679|1COMPONENT-680",
  "1COMPONENT-681|1COMPONENT-682|1COMPONENT-683|1COMPONENT-684|1COMPONENT-685|1COMPONENT-686",
  "1COMPONENT-687|1COMPONENT-688|1COMPONENT-689|1COMPONENT-690|1COMPONENT-691|1COMPONENT-692",
  "1COMPONENT-693|1COMPONENT-694|1COMPONENT-695|1COMPONENT-696|1COMPONENT-697|1COMPONENT-698",
  "1COMPONENT-699|1COMPONENT-700|1COMPONENT-701|1COMPONENT-702|1COMPONENT-703|1COMPONENT-704",
  "1COMPONENT-705|1COMPONENT-706|1COMPONENT-707|1COMPONENT-708|1COMPONENT-709|1COMPONENT-710",
  "1COMPONENT-711|1COMPONENT-712|1COMPONENT-713|1COMPONENT-714|1COMPONENT-715|1COMPONENT-716",
  "1COMPONENT-717|1COMPONENT-718|1COMPONENT-719|1COMPONENT-720|1COMPONENT-721|1COMPONENT-722",
  "1COMPONENT-723|1COMPONENT-724|1COMPONENT-725|1COMPONENT-726|1COMPONENT-727|1COMPONENT-728",
  "1COMPONENT-729|1COMPONENT-730|1COMPONENT-731|1COMPONENT-732|1COMPONENT-733|1COMPONENT-734",
  "1COMPONENT-735|1COMPONENT-736|1COMPONENT-737|1COMPONENT-738|1COMPONENT-739|1COMPONENT-740",
  "1COMPONENT-741|1COMPONENT-742|1COMPONENT-743|1COMPONENT-744|1COMPONENT-745|1COMPONENT-746",
  "1COMPONENT-747|1COMPONENT-748|1COMPONENT-749|1COMPONENT-750|1COMPONENT-751|1COMPONENT-752",
  "1COMPONENT-753|1COMPONENT-754|1COMPONENT-755|1COMPONENT-756|1COMPONENT-757|1COMPONENT-758",
  "1COMPONENT-759|1COMPONENT-760|1COMPONENT-761|1COMPONENT-762|1COMPONENT-763|1COMPONENT-764",
  "1COMPONENT-765|1COMPONENT-766|1COMPONENT-767|1COMPONENT-768|1ITERATION MARK|0TAPE CARTRIDGE",
  "1DRIVE|0TAURUS|0TAXI|0TEACUP WITHOUT HANDLE|0TEAPOT|0TEAR-OFF CALENDAR",
  "0TEARDROP-BARBED RIGHTWARDS ARROW|0TEARDROP-SPOKED ASTERISK|0TEDDY BEAR",
  "0TELEPHONE LOCATION SIGN|1ON TOP OF MODEM|1RECEIVER|2WITH PAGE|1RECORDER|1SIGN|0TELESCOPE",
  "0TELEVISION|0TELUGU AI LENGTH MARK|1DIGIT EIGHT|2FIVE|2FOUR|2NINE|2ONE|2SEVEN|2SIX|2THREE|2TWO",
  "2ZERO|1FRACTION DIGIT ONE FOR EVEN POWERS OF FOUR|5ODD POWERS OF FOUR",
  "3THREE FOR EVEN POWERS OF FOUR|5ODD POWERS OF FOUR|3TWO FOR EVEN POWERS OF FOUR",
  "5ODD POWERS OF FOUR|3ZERO FOR ODD POWERS OF FOUR|1LENGTH MARK|1LETTER A|2AA|2AI|2AU|2BA|2BHA",
  "2CA|2CHA|2DA|2DDA|2DDHA|2DHA|2DZA|2E|2EE|2GA|2GHA|2HA|2I|2II|2JA|2JHA|2KA|2KHA|2LA|2LLA|2LLLA",
  "2MA|2NA|2NAKAARA POLLU|2NGA|2NNA|2NYA|2O|2OO|2PA|2PHA|2RA|2RRA|2RRRA|2SA|2SHA|2SSA|2TA|2THA",
  "2TSA|2TTA|2TTHA|2U|2UU|2VA|2VOCALIC L|3LL|3R|3RR|2YA|1SIGN ANUSVARA|2AVAGRAHA|2CANDRABINDU",
  "2COMBINING ANUSVARA ABOVE|3CANDRABINDU ABOVE|2NUKTA|2SIDDHAM|2TUUMU|2VIRAMA|2VISARGA",
  "1VOWEL SIGN AA|3AI|3AU|3E|3EE|3I|3II|3O|3OO|3U|3UU|3VOCALIC L|4LL|4R|4RR|0TENGE SIGN",
  "0TENNIS RACQUET AND BALL|0TENT|0TEST TUBE|0TETRAGRAM FOR ACCUMULATION|2ADVANCE|2AGGRAVATION",
  "2ASCENT|2BARRIER|2BOLD RESOLUTION|2BRANCHING OUT|2CENTRE|2CHANGE|2CLOSED MOUTH|2CLOSENESS",
  "2CLOSURE|2COMPLETION|2COMPLIANCE|2CONSTANCY|2CONTACT|2CONTENTION|2CONTRARIETY|2DARKENING",
  "2DECISIVENESS|2DEFECTIVENESS OR DISTORTION|2DEPARTURE|2DIFFICULTIES|2DIMINISHMENT|2DIMMING",
  "2DIVERGENCE|2DOUBT|2DUTIES|2EASE|2EMBELLISHMENT|2ENCOUNTERS|2ENDEAVOUR|2ENLARGEMENT|2ETERNITY",
  "2EXHAUSTION|2FAILURE|2FLIGHT|2FOLLOWING|2FOSTERING|2FULL CIRCLE|2FULLNESS|2GATHERING|3IN",
  "2GOING TO MEET|2GREATNESS|2GUARDEDNESS|2HARDNESS|2HOLDING BACK|2INCREASE|2INNER|2JOY",
  "2KEEPING SMALL|2KINSHIP|2LABOURING|2LAW OR MODEL|2LEGION|2MASSING|2MEASURE|2MIRED|2ON THE VERGE",
  "2OPPOSITION|2PACKING|2PATTERN|2PENETRATION|2PURITY|2REACH|2RELEASE|2RESIDENCE|2RESISTANCE",
  "2RESPONSE|2RITUAL|2SEVERANCE|2SINKING|2STOPPAGE|2STOVE|2STRENGTH|2UNITY|2VASTNESS OR WASTING",
  "2WAITING|2WATCH|2YOUTHFULNESS|0THAANA AABAAFILI|1ABAFILI|1EBEFILI|1EEBEEFILI|1EYBEYFILI",
  "1IBIFILI|1LETTER AINU|2ALIFU|2BAA|2CHAVIYANI|2DAADHU|2DAVIYANI|2DHAALU|2FAAFU|2GAAFU|2GHAINU",
  "2GNAVIYANI|2HAA|2HHAA|2JAVIYANI|2KAAFU|2KHAA|2LAAMU|2LHAVIYANI|2MEEMU|2NAA|2NOONU|2PAVIYANI",
  "2QAAFU|2RAA|2SAADHU|2SEENU|2SHAVIYANI|2SHEENU|2TAVIYANI|2THAA|2THAALU|2TO|2TTAA|2VAAVU|2WAAVU",
  "2YAA|2ZAA|2ZAVIYANI|2ZO|1OABOAFILI|1OBOFILI|1OOBOOFILI|1SUKUN|1UBUFILI",
  "0THAI CHARACTER ANGKHANKHU|2BO BAIMAI|2CHO CHAN|3CHANG|3CHING|3CHOE|2DO CHADA|3DEK|2FO FA|3FAN",
  "2FONGMAN|2HO HIP|3NOKHUK|2KHO KHAI|3KHON|3KHUAT|3KHWAI|3RAKHANG|2KHOMUT|2KO KAI|2LAKKHANGYAO",
  "2LO CHULA|3LING|2LU|2MAI CHATTAWA|3EK|3HAN-AKAT|3THO|3TRI|2MAITAIKHU|2MAIYAMOK|2MO MA|2NGO NGU",
  "2NIKHAHIT|2NO NEN|3NU|2O ANG|2PAIYANNOI|2PHINTHU|2PHO PHAN|3PHUNG|3SAMPHAO|2PO PLA|2RO RUA|2RU",
  "2SARA A|3AA|3AE|3AI MAIMALAI|4MAIMUAN|3AM|3E|3I|3II|3O|3U|3UE|3UEE|3UU|2SO RUSI|3SALA|3SO|3SUA",
  "2THANTHAKHAT|2THO NANGMONTHO|3PHUTHAO|3THAHAN|3THAN|3THONG|3THUNG|2TO PATAK|3TAO|2WO WAEN",
  "2YAMAKKAN|2YO YAK|3YING|1CURRENCY SYMBOL BAHT|1DIGIT EIGHT|2FIVE|2FOUR|2NINE|2ONE|2SEVEN|2SIX",
  "2THREE|2TWO|2ZERO|0THERE DOES NOT EXIST|1EXISTS|0THEREFORE|0THERMODYNAMIC|0THERMOMETER",
  "0THIN GREEK CROSS|1SALTIRE|1SPACE|0THINKING FACE|0THIRD PLACE MEDAL|0THONG SANDAL",
  "0THOUGHT BALLOON|0THREE BUTTON MOUSE|1CONSECUTIVE EQUALS SIGNS|1DIMENSIONAL ANGLE",
  "1DOT PUNCTUATION|1LEFTWARDS ARROWS|1LINES CONVERGING LEFT|3RIGHT|1NETWORKED COMPUTERS",
  "1POINTED BLACK STAR|1RAYS ABOVE|2BELOW|2LEFT|2RIGHT|1RIGHTWARDS ARROWS|1SPEECH BUBBLES",
  "0THREE-D BOTTOM-LIGHTED RIGHTWARDS ARROWHEAD|1LEFT-LIGHTED DOWNWARDS EQUILATERAL ARROWHEAD",
  "1RIGHT-LIGHTED UPWARDS EQUILATERAL ARROWHEAD|1TOP-LIGHTED LEFTWARDS EQUILATERAL ARROWHEAD",
  "2RIGHTWARDS ARROWHEAD|3EQUILATERAL ARROWHEAD|0THREE-EM DASH|0THREE-PER-EM SPACE",
  "0THUMBS DOWN SIGN|1UP SIGN|0THUNDER CLOUD AND RAIN|0THUNDERSTORM",
  "0TIBETAN ASTROLOGICAL SIGN -KHYUD PA|3SDONG TSHUGS|3SGRA GCAN -CHAR RTAGS",
  "1CANTILLATION SIGN CANG TE-U|3HEAVY BEAT|3LIGHT BEAT|3SBUB -CHAL|1DIGIT EIGHT|2FIVE|2FOUR",
  "2HALF EIGHT|3FIVE|3FOUR|3NINE|3ONE|3SEVEN|3SIX|3THREE|3TWO|3ZERO|2NINE|2ONE|2SEVEN|2SIX|2THREE",
  "2TWO|2ZERO|1KU RU KHA|4BZHI MIG CAN|1LETTER -A|2A|2BA|2BHA|2CA|2CHA|2DA|2DDA|2DDHA|2DHA|2DZA",
  "2DZHA|2FIXED-FORM RA|2GA|2GHA|2HA|2JA|2KA|2KHA|2KKA|2KSSA|2LA|2MA|2NA|2NGA|2NNA|2NYA|2PA|2PHA",
  "2RA|2RRA|2SA|2SHA|2SSA|2TA|2THA|2TSA|2TSHA|2TTA|2TTHA|2WA|2YA|2ZA|2ZHA",
  "1LOGOTYPE SIGN CHAD RTAGS|3LHAG RTAGS|1MARK ANG KHANG GYAS|4GYON|2BKA- SHOG GI MGO RGYAN",
  "4YIG MGO|2BSDUS RTAGS|2BSKA- SHOG GI MGO RGYAN|2BSKUR YIG MGO|2CARET -DZUD RTAGS BZHI MIG CAN",
  "5ME LONG CAN|3YIG MGO PHUR SHAD MA|2CHE MGO|2CLOSING BRDA RNYING YIG MGO SGAB MA",
  "3YIG MGO SGAB MA|2DELIMITER TSHEG BSTAR|2GTER TSHEG|3YIG MGO -UM GTER TSHEG MA|6RNAM BCAD MA",
  "5TRUNCATED A|2GUG RTAGS GYAS|4GYON|2HALANTA|2INITIAL BRDA RNYING YIG MGO MDUN MA",
  "3YIG MGO MDUN MA|2INTERSYLLABIC TSHEG|2LEADING MCHAN RTAGS|2MNYAM YIG GI MGO RGYAN",
  "2NGAS BZUNG NYI ZLA|4SGOR RTAGS|2NYIS SHAD|3TSHEG|4SHAD|2PALUTA|2RGYA GRAM SHAD",
  "2RIN CHEN SPUNGS SHAD|2SBRUL SHAD|2SHAD|2TRAILING MCHAN RTAGS|2TSA -PHRU|2TSHEG SHAD",
  "2YIG MGO TSHEG SHAD MA|1SIGN GRU CAN RGYINGS|3MED RGYINGS|2INVERTED MCHU CAN|2LCE TSA CAN",
  "2LCI RTAGS|2MAR TSHES|2MCHU CAN|2NYI ZLA NAA DA|2RDEL DKAR GCIG|4GNYIS|4GSUM|4RDEL NAG",
  "3NAG GCIG|4GNYIS|4GSUM|4RDEL DKAR|2RJES SU NGA RO|2RNAM BCAD|2SNA LDAN|2YANG RTAGS|2YAR TSHES",
  "1SUBJOINED LETTER -A|3A|3BA|3BHA|3CA|3CHA|3DA|3DDA|3DDHA|3DHA|3DZA|3DZHA|3FIXED-FORM RA|4WA|4YA",
  "3GA|3GHA|3HA|3JA|3KA|3KHA|3KSSA|3LA|3MA|3NA|3NGA|3NNA|3NYA|3PA|3PHA|3RA|3SA|3SHA|3SSA|3TA|3THA",
  "3TSA|3TSHA|3TTA|3TTHA|3WA|3YA|3ZA|3ZHA|2SIGN INVERTED MCHU CAN|3LCE TSA CAN|3MCHU CAN",
  "1SYLLABLE OM|1SYMBOL DRIL BU|2NOR BU|4BZHI -KHYIL|4GSUM -KHYIL|4NYIS -KHYIL|2PADMA GDAN",
  "2PHUR PA|2RDO RJE|4RGYA GRAM|1VOWEL SIGN AA|3E|3EE|3I|3II|3O|3OO|3REVERSED I|4II|3U|3UU",
  "3VOCALIC L|4LL|4R|4RR|0TICKET|0TIE OVER INFINITY|0TIFINAGH CONSONANT JOINER",
  "1LETTER AHAGGAR YAZH|2AYER YAGH|2BERBER ACADEMY YAH|4YAJ|2TAWELLEMET YAZ|2TUAREG YAGH|3YAGN",
  "3YAH|3YAK|3YAKH|3YANG|3YAQ|3YAZH|2YA|2YAA|2YAB|2YABH|2YACH|2YAD|2YADD|2YADDH|2YADH|2YAF|2YAG",
  "2YAGH|2YAGHH|2YAH|2YAHH|2YAJ|2YAK|2YAKH|2YAKHH|2YAL|2YAM|2YAN|2YAP|2YAQ|2YAR|2YARR|2YAS|2YASH",
  "2YASS|2YAT|2YATH|2YATT|2YAV|2YAW|2YAY|2YAZ|2YAZH|2YAZZ|2YE|2YEY|2YI|2YO|2YU",
  "1MODIFIER LETTER LABIALIZATION MARK|1SEPARATOR MARK|0TIGER|1FACE|0TIGHT TRIFOLIATE SNOWFLAKE",
  "0TILDE|1OPERATOR|2ABOVE LEFTWARDS ARROW|3RIGHTWARDS ARROW|2WITH DOT ABOVE|3RISING DOTS",
  "1WITH DOT ABOVE|3BELOW|2RING ABOVE|0TIMER CLOCK|0TIMES WITH LEFT HALF BLACK|2RIGHT HALF BLACK",
  "0TINY|1TWO DOTS OVER ONE DOT PUNCTUATION|0TIRED FACE|0TIRHUTA ABBREVIATION SIGN|1ANJI",
  "1DIGIT EIGHT|2FIVE|2FOUR|2NINE|2ONE|2SEVEN|2SIX|2THREE|2TWO|2ZERO|1GVANG|1LETTER A|2AA|2AI|2AU",
  "2BA|2BHA|2CA|2CHA|2DA|2DDA|2DDHA|2DHA|2E|2GA|2GHA|2HA|2I|2II|2JA|2JHA|2KA|2KHA|2LA|2MA|2NA|2NGA",
  "2NNA|2NYA|2O|2PA|2PHA|2RA|2SA|2SHA|2SSA|2TA|2THA|2TTA|2TTHA|2U|2UU|2VA|2VOCALIC L|3LL|3R|3RR",
  "2YA|1OM|1SIGN ANUSVARA|2AVAGRAHA|2CANDRABINDU|2NUKTA|2VIRAMA|2VISARGA|1VOWEL SIGN AA|3AI|3AU|3E",
  "3I|3II|3O|3SHORT E|4O|3U|3UU|3VOCALIC L|4LL|4R|4RR|0TIRONIAN SIGN CAPITAL ET|2ET|0TOILET",
  "0TOKYO TOWER|0TOMATO|0TONGUE|0TOOLBOX|0TOOTH|0TOOTHBRUSH|0TOP ARC ANTICLOCKWISE ARROW",
  "4WITH PLUS|2CLOCKWISE ARROW WITH MINUS|1CURLY BRACKET|1HALF BLACK CIRCLE|2INTEGRAL",
  "2LEFT PARENTHESIS|2RIGHT PARENTHESIS|2SECTION SIGN|1HAT|1LEFT CORNER|2CROP|2HALF BRACKET",
  "1PARENTHESIS|1RIGHT CORNER|2CROP|2HALF BRACKET|1SQUARE BRACKET|1TORTOISE SHELL BRACKET",
  "1WITH UPWARDS ARROW ABOVE|0TORTOISE SHELL BRACKETED CJK UNIFIED IDEOGRAPH-4E09|5IDEOGRAPH-4E8C",
  "5IDEOGRAPH-52DD|5IDEOGRAPH-5B89|5IDEOGRAPH-6253|5IDEOGRAPH-6557|5IDEOGRAPH-672C|5IDEOGRAPH-70B9",
  "5IDEOGRAPH-76D7|3LATIN CAPITAL LETTER S|0TOTAL RUNOUT|0TOTO LETTER A|2AE|2BA|2BREATHY AE|3E|3EO",
  "3I|3IU|2CHA|2DA|2E|2EO|2GA|2HA|2I|2IU|2JA|2KA|2LA|2MA|2NA|2NGA|2O|2PA|2RA|2SA|2TA|2U|2WA|2YA",
  "1SIGN RISING TONE|0TRACKBALL|0TRACTOR|0TRADE MARK SIGN|0TRAIN|0TRAM|1CAR|0TRANSPLUTO",
  "0TRANSVERSAL INTERSECTION|0TRIANGLE WITH DOT ABOVE|2ROUNDED CORNERS|2SERIFS AT BOTTOM|2UNDERBAR",
  "0TRIANGLE-HEADED RIGHTWARDS ARROW|0TRIANGULAR BULLET|1FLAG ON POST|1RULER|0TRICOLON",
  "0TRIDENT EMBLEM|0TRIGRAM FOR EARTH|2FIRE|2HEAVEN|2LAKE|2MOUNTAIN|2THUNDER|2WATER|2WIND",
  "0TRIPLE COLON OPERATOR|1DAGGER|1HORIZONTAL BAR WITH DOUBLE VERTICAL STROKE",
  "4TRIPLE VERTICAL STROKE|1INTEGRAL|1NESTED GREATER-THAN|2LESS-THAN|1PLUS|1PRIME",
  "1SOLIDUS BINARY RELATION|1TILDE|1VERTICAL BAR BINARY RELATION|3DELIMITER|3RIGHT TURNSTILE",
  "3WITH HORIZONTAL STROKE|0TROLL|0TROLLEYBUS|0TROPHY|0TROPICAL DRINK|1FISH|0TRUE|1LIGHT MOON ARTA",
  "0TRUMPET|0TUGRIK SIGN|0TULIP|0TUMBLER GLASS|0TURKEY|0TURKISH LIRA SIGN|0TURNED AMPERSAND|1ANGLE",
  "1BLACK PENTAGON|2SHOGI PIECE|1CAPITAL F|1COMMA|1DAGGER|1DIGIT THREE|2TWO",
  "1GREEK SMALL LETTER IOTA|1NORTH EAST POINTING LEAF|2WEST POINTING LEAF|1NOT SIGN|1OK HAND SIGN",
  "1SANS-SERIF CAPITAL G|3L|3Y|1SEMICOLON|1SMALL F|1SOUTH EAST POINTING LEAF|2WEST POINTING LEAF",
  "1WHITE SHOGI PIECE|0TURTLE|0TWELVE POINTED BLACK STAR|0TWISTED RIGHTWARDS ARROWS",
  "0TWO ASTERISKS ALIGNED VERTICALLY|1BUTTON MOUSE|1CONSECUTIVE EQUALS SIGNS|1DOT LEADER",
  "2PUNCTUATION|1DOTS OVER ONE DOT PUNCTUATION|1HEARTS|1INTERSECTING LOGICAL AND|3OR",
  "1JOINED SQUARES|1LOGICAL AND OPERATOR|2OR OPERATOR|1MEN HOLDING HANDS|1SPEECH BUBBLES",
  "1WOMEN HOLDING HANDS|0TWO-EM DASH|0UGARITIC LETTER AIN|2ALPA|2BETA|2DELTA|2DHAL|2GAMLA|2GHAIN",
  "2HO|2HOTA|2I|2KAF|2KHA|2LAMDA|2MEM|2NUN|2PU|2QOPA|2RASHA|2SADE|2SAMKA|2SHIN|2SSU|2TET|2THANNA",
  "2TO|2U|2WO|2YOD|2ZETA|2ZU|1WORD DIVIDER|0UMBRELLA|1ON GROUND|1WITH RAIN DROPS|0UNAMUSED FACE",
  "0UNCERTAINTY SIGN|0UNDERTIE|0UNDO SYMBOL|0UNICORN FACE|0UNION|1ABOVE BAR ABOVE INTERSECTION",
  "2INTERSECTION|1BESIDE AND JOINED WITH UNION|1WITH LOGICAL OR|2MINUS SIGN|2OVERBAR",
  "0UNIT SEPARATOR|0UNITED SYMBOL|0UNIVERSAL RECYCLING SYMBOL|0UNMARRIED PARTNERSHIP SYMBOL",
  "0UP ARROW THROUGH CIRCLE|1ARROWHEAD|2BETWEEN TWO HORIZONTAL BARS|2IN A RECTANGLE BOX",
  "1BARB LEFT DOWN BARB LEFT HARPOON|5RIGHT HARPOON|2RIGHT DOWN BARB LEFT HARPOON|5RIGHT HARPOON",
  "1DOWN ARROW|3WITH BASE|2BLACK ARROW|2DOUBLE ARROW|2SANS-SERIF ARROW|2TRIANGLE-HEADED ARROW",
  "2WHITE ARROW|1FISH TAIL|1RIGHT DIAGONAL ELLIPSIS|1TACK|2WITH CIRCLE ABOVE|0UP-POINTING AIRPLANE",
  "1MILITARY AIRPLANE|1RED TRIANGLE|1SMALL AIRPLANE|2RED TRIANGLE|1TRIANGLE WITH LEFT HALF BLACK",
  "3RIGHT HALF BLACK|0UPPER AND LEFT AND LOWER TRIANGULAR THREE QUARTERS BLOCK",
  "2LOWER ONE EIGHTH BLOCK|3TRIANGULAR HALF BLOCK|2RIGHT AND LOWER TRIANGULAR THREE QUARTERS BLOCK",
  "1BLADE SCISSORS|1FIVE EIGHTHS BLOCK|1HALF BLOCK|3AND LOWER HALF INVERSE MEDIUM SHADE|2CIRCLE",
  "2INVERSE MEDIUM SHADE AND LOWER HALF BLOCK|3WHITE CIRCLE|2MEDIUM SHADE",
  "1LEFT BLOCK DIAGONAL LOWER CENTRE TO LOWER MIDDLE RIGHT|7UPPER MIDDLE RIGHT|8RIGHT",
  "5LEFT TO LOWER MIDDLE RIGHT|7UPPER CENTRE|8MIDDLE RIGHT|5MIDDLE LEFT TO UPPER CENTRE",
  "9MIDDLE RIGHT|9RIGHT|4UPPER MIDDLE LEFT TO UPPER CENTRE|9RIGHT|2CORNER WITH DOT",
  "2OR LOWER RIGHT CURLY BRACKET SECTION|2QUADRANT CIRCULAR ARC|2TO LOWER RIGHT FILL|2TRIANGLE",
  "2TRIANGULAR MEDIUM SHADE|1ONE EIGHTH BLOCK|2QUARTER BLOCK",
  "1RIGHT BLOCK DIAGONAL LOWER MIDDLE LEFT TO LOWER CENTRE|9RIGHT",
  "4UPPER CENTRE TO LOWER MIDDLE RIGHT|8RIGHT|7UPPER MIDDLE RIGHT|5LEFT TO LOWER CENTRE",
  "8MIDDLE RIGHT|7UPPER MIDDLE RIGHT|5MIDDLE LEFT TO LOWER CENTRE|9MIDDLE RIGHT|9RIGHT",
  "2DROP-SHADOWED WHITE SQUARE|2OR LOWER LEFT CURLY BRACKET SECTION|2PENCIL|2QUADRANT CIRCULAR ARC",
  "2SHADOWED WHITE CIRCLE|4SQUARE|2TO LOWER LEFT FILL|2TRIANGLE|2TRIANGULAR MEDIUM SHADE",
  "1SEVEN EIGHTHS BLOCK|1THREE EIGHTHS BLOCK|2QUARTERS BLOCK|1TRIANGULAR ONE QUARTER BLOCK",
  "0UPSIDE-DOWN FACE|0UPWARDS ANCORA|1ARROW|2AND RIGHT ONE EIGHTH BLOCK|2FROM BAR",
  "2LEFTWARDS OF DOWNWARDS ARROW|2TO BAR|2WITH DOUBLE STROKE|3EQUILATERAL ARROWHEAD",
  "3HORIZONTAL STROKE|3LARGE TRIANGLE ARROWHEAD|3MEDIUM TRIANGLE ARROWHEAD|3NOTCHED TAIL",
  "3SMALL EQUILATERAL ARROWHEAD|4TRIANGLE ARROWHEAD|3TIP LEFTWARDS|4RIGHTWARDS|1BLACK ARROW",
  "2CIRCLED WHITE ARROW|1COMPRESSED ARROW|1DASHED ARROW|1DOUBLE ARROW|1FINGER-POST ARROW",
  "1HARPOON WITH BARB LEFT BESIDE DOWNWARDS HARPOON WITH BARB RIGHT",
  "6UPWARDS HARPOON WITH BARB RIGHT|5FROM BAR|5TO BAR|4LEFTWARDS|4RIGHT FROM BAR|5TO BAR",
  "4RIGHTWARDS|1HEAVY ARROW|2COMPRESSED ARROW|1PAIRED ARROWS|1QUADRUPLE ARROW|1ROCKET",
  "1SANS-SERIF ARROW|1SQUARED ARROW|1TRIANGLE ARROWHEAD|1TRIANGLE-HEADED ARROW",
  "3LEFTWARDS OF DOWNWARDS TRIANGLE-HEADED ARROW|3TO BAR|3WITH BOLD SHAFT",
  "4DOUBLE HORIZONTAL STROKE|4HEAVY SHAFT|4LONG TIP LEFTWARDS|6RIGHTWARDS|4MEDIUM SHAFT",
  "4NARROW SHAFT|4VERY HEAVY SHAFT|2DASHED ARROW|2PAIRED ARROWS|1TRIPLE ARROW|1TWO HEADED ARROW",
  "1TWO-HEADED ARROW FROM SMALL CIRCLE|3WITH TRIANGLE ARROWHEADS|1WHITE ARROW|3FROM BAR",
  "5WITH HORIZONTAL BAR|3ON PEDESTAL|5WITH HORIZONTAL BAR|6VERTICAL BAR|3WITHIN TRIANGLE ARROWHEAD",
  "2DOUBLE ARROW|4ON PEDESTAL|0URANUS|0US|0VAI COMMA|1DIGIT EIGHT|2FIVE|2FOUR|2NINE|2ONE|2SEVEN",
  "2SIX|2THREE|2TWO|2ZERO|1FULL STOP|1QUESTION MARK|1SYLLABLE A|2AN|2BA|2BE|2BEE|2BHA|2BHE|2BHEE",
  "2BHI|2BHO|2BHOO|2BHU|2BI|2BO|2BOO|2BU|2CA|2CE|2CEE|2CI|2CO|2COO|2CU|2DA|2DE|2DEE|2DHA|2DHE",
  "2DHEE|2DHHA|2DHHE|2DHHEE|2DHHI|2DHHO|2DHHOO|2DHHU|2DHI|2DHO|2DHOO|2DHU|2DI|2DO|2DOO|2DU|2E|2EE",
  "2EEN|2EN|2FA|2FE|2FEE|2FI|2FO|2FOO|2FU|2GA|2GBA|2GBE|2GBEE|2GBEN|2GBI|2GBO|2GBON|2GBOO|2GBU|2GE",
  "2GEE|2GEN|2GI|2GO|2GOO|2GU|2HA|2HAN|2HE|2HEE|2HEN|2HI|2HIN|2HO|2HON|2HOO|2HU|2HUN|2I|2IN|2JA",
  "2JE|2JEE|2JI|2JO|2JOO|2JU|2KA|2KAN|2KE|2KEE|2KI|2KO|2KOO|2KPA|2KPAN|2KPE|2KPEE|2KPEN|2KPI|2KPO",
  "2KPOO|2KPU|2KU|2LA|2LE|2LEE|2LENGTHENER|2LI|2LO|2LOO|2LU|2MA|2MBA|2MBE|2MBEE|2MBI|2MBO|2MBOO",
  "2MBU|2ME|2MEE|2MGBA|2MGBE|2MGBEE|2MGBI|2MGBO|2MGBOO|2MGBU|2MI|2MO|2MOO|2MU|2NA|2NDA|2NDE|2NDEE",
  "2NDI|2NDO|2NDOLE DO|3FA|3KA|3MA|3SOO|2NDOO|2NDU|2NE|2NEE|2NG|2NGAN|2NGEN|2NGGA|2NGGE|2NGGEE",
  "2NGGEN|2NGGI|2NGGO|2NGGOO|2NGGU|2NGON|2NI|2NJA|2NJE|2NJEE|2NJI|2NJO|2NJOO|2NJU|2NO|2NOO|2NU",
  "2NYA|2NYE|2NYEE|2NYI|2NYO|2NYOO|2NYU|2O|2ON|2OO|2OON|2PA|2PE|2PEE|2PI|2PO|2POO|2PU|2RA|2RE|2REE",
  "2RI|2RO|2ROO|2RU|2SA|2SE|2SEE|2SHA|2SHE|2SHEE|2SHI|2SHO|2SHOO|2SHU|2SI|2SO|2SOO|2SU|2TA|2TE",
  "2TEE|2THA|2THE|2THEE|2THI|2THO|2THOO|2THU|2TI|2TO|2TOO|2TU|2U|2UN|2VA|2VE|2VEE|2VI|2VO|2VOO|2VU",
  "2WA|2WAN|2WE|2WEE|2WEEN|2WEN|2WI|2WIN|2WO|2WON|2WOO|2WOON|2WU|2WUN|2YA|2YE|2YEE|2YI|2YO|2YOO",
  "2YU|2ZA|2ZE|2ZEE|2ZHA|2ZHE|2ZHEE|2ZHI|2ZHO|2ZHOO|2ZHU|2ZI|2ZO|2ZOO|2ZU|1SYMBOL BANG|2DANG|2DO-O",
  "2DOONG|2FAA|2FEENG|2JONG|2KEENG|2KUNG|2NII|2TAA|2TING|2TONG|0VAMPIRE|0VARIATION SELECTOR-1",
  "1SELECTOR-10|1SELECTOR-100|1SELECTOR-101|1SELECTOR-102|1SELECTOR-103|1SELECTOR-104",
  "1SELECTOR-105|1SELECTOR-106|1SELECTOR-107|1SELECTOR-108|1SELECTOR-109|1SELECTOR-11",
  "1SELECTOR-110|1SELECTOR-111|1SELECTOR-112|1SELECTOR-113|1SELECTOR-114|1SELECTOR-115",
  "1SELECTOR-116|1SELECTOR-117|1SELECTOR-118|1SELECTOR-119|1SELECTOR-12|1SELECTOR-120",
  "1SELECTOR-121|1SELECTOR-122|1SELECTOR-123|1SELECTOR-124|1SELECTOR-125|1SELECTOR-126",
  "1SELECTOR-127|1SELECTOR-128|1SELECTOR-129|1SELECTOR-13|1SELECTOR-130|1SELECTOR-131",
  "1SELECTOR-132|1SELECTOR-133|1SELECTOR-134|1SELECTOR-135|1SELECTOR-136|1SELECTOR-137",
  "1SELECTOR-138|1SELECTOR-139|1SELECTOR-14|1SELECTOR-140|1SELECTOR-141|1SELECTOR-142",
  "1SELECTOR-143|1SELECTOR-144|1SELECTOR-145|1SELECTOR-146|1SELECTOR-147|1SELECTOR-148",
  "1SELECTOR-149|1SELECTOR-15|1SELECTOR-150|1SELECTOR-151|1SELECTOR-152|1SELECTOR-153",
  "1SELECTOR-154|1SELECTOR-155|1SELECTOR-156|1SELECTOR-157|1SELECTOR-158|1SELECTOR-159",
  "1SELECTOR-16|1SELECTOR-160|1SELECTOR-161|1SELECTOR-162|1SELECTOR-163|1SELECTOR-164",
  "1SELECTOR-165|1SELECTOR-166|1SELECTOR-167|1SELECTOR-168|1SELECTOR-169|1SELECTOR-17",
  "1SELECTOR-170|1SELECTOR-171|1SELECTOR-172|1SELECTOR-173|1SELECTOR-174|1SELECTOR-175",
  "1SELECTOR-176|1SELECTOR-177|1SELECTOR-178|1SELECTOR-179|1SELECTOR-18|1SELECTOR-180",
  "1SELECTOR-181|1SELECTOR-182|1SELECTOR-183|1SELECTOR-184|1SELECTOR-185|1SELECTOR-186",
  "1SELECTOR-187|1SELECTOR-188|1SELECTOR-189|1SELECTOR-19|1SELECTOR-190|1SELECTOR-191",
  "1SELECTOR-192|1SELECTOR-193|1SELECTOR-194|1SELECTOR-195|1SELECTOR-196|1SELECTOR-197",
  "1SELECTOR-198|1SELECTOR-199|1SELECTOR-2|1SELECTOR-20|1SELECTOR-200|1SELECTOR-201|1SELECTOR-202",
  "1SELECTOR-203|1SELECTOR-204|1SELECTOR-205|1SELECTOR-206|1SELECTOR-207|1SELECTOR-208",
  "1SELECTOR-209|1SELECTOR-21|1SELECTOR-210|1SELECTOR-211|1SELECTOR-212|1SELECTOR-213",
  "1SELECTOR-214|1SELECTOR-215|1SELECTOR-216|1SELECTOR-217|1SELECTOR-218|1SELECTOR-219",
  "1SELECTOR-22|1SELECTOR-220|1SELECTOR-221|1SELECTOR-222|1SELECTOR-223|1SELECTOR-224",
  "1SELECTOR-225|1SELECTOR-226|1SELECTOR-227|1SELECTOR-228|1SELECTOR-229|1SELECTOR-23",
  "1SELECTOR-230|1SELECTOR-231|1SELECTOR-232|1SELECTOR-233|1SELECTOR-234|1SELECTOR-235",
  "1SELECTOR-236|1SELECTOR-237|1SELECTOR-238|1SELECTOR-239|1SELECTOR-24|1SELECTOR-240",
  "1SELECTOR-241|1SELECTOR-242|1SELECTOR-243|1SELECTOR-244|1SELECTOR-245|1SELECTOR-246",
  "1SELECTOR-247|1SELECTOR-248|1SELECTOR-249|1SELECTOR-25|1SELECTOR-250|1SELECTOR-251",
  "1SELECTOR-252|1SELECTOR-253|1SELECTOR-254|1SELECTOR-255|1SELECTOR-256|1SELECTOR-26|1SELECTOR-27",
  "1SELECTOR-28|1SELECTOR-29|1SELECTOR-3|1SELECTOR-30|1SELECTOR-31|1SELECTOR-32|1SELECTOR-33",
  "1SELECTOR-34|1SELECTOR-35|1SELECTOR-36|1SELECTOR-37|1SELECTOR-38|1SELECTOR-39|1SELECTOR-4",
  "1SELECTOR-40|1SELECTOR-41|1SELECTOR-42|1SELECTOR-43|1SELECTOR-44|1SELECTOR-45|1SELECTOR-46",
  "1SELECTOR-47|1SELECTOR-48|1SELECTOR-49|1SELECTOR-5|1SELECTOR-50|1SELECTOR-51|1SELECTOR-52",
  "1SELECTOR-53|1SELECTOR-54|1SELECTOR-55|1SELECTOR-56|1SELECTOR-57|1SELECTOR-58|1SELECTOR-59",
  "1SELECTOR-6|1SELECTOR-60|1SELECTOR-61|1SELECTOR-62|1SELECTOR-63|1SELECTOR-64|1SELECTOR-65",
  "1SELECTOR-66|1SELECTOR-67|1SELECTOR-68|1SELECTOR-69|1SELECTOR-7|1SELECTOR-70|1SELECTOR-71",
  "1SELECTOR-72|1SELECTOR-73|1SELECTOR-74|1SELECTOR-75|1SELECTOR-76|1SELECTOR-77|1SELECTOR-78",
  "1SELECTOR-79|1SELECTOR-8|1SELECTOR-80|1SELECTOR-81|1SELECTOR-82|1SELECTOR-83|1SELECTOR-84",
  "1SELECTOR-85|1SELECTOR-86|1SELECTOR-87|1SELECTOR-88|1SELECTOR-89|1SELECTOR-9|1SELECTOR-90",
  "1SELECTOR-91|1SELECTOR-92|1SELECTOR-93|1SELECTOR-94|1SELECTOR-95|1SELECTOR-96|1SELECTOR-97",
  "1SELECTOR-98|1SELECTOR-99|0VECTOR OR CROSS PRODUCT|0VEDIC SIGN ANUSVARA ANTARGOMUKHA",
  "3BAHIRGOMUKHA|3UBHAYATO MUKHA|3VAMAGOMUKHA|4WITH TAIL|2ARDHAVISARGA|2ATIKRAMA",
  "2DOUBLE ANUSVARA ANTARGOMUKHA|2HEXIFORM LONG ANUSVARA|2JIHVAMULIYA|2LONG ANUSVARA|2NIHSHVASA",
  "2REVERSED VISARGA ANUDATTA|4UDATTA|2ROTATED ARDHAVISARGA|2RTHANG LONG ANUSVARA|2TIRYAK",
  "2UPADHMANIYA|2VISARGA ANUDATTA|4WITH TAIL|3SVARITA|3UDATTA|4WITH TAIL",
  "2YAJURVEDIC MIDLINE SVARITA|1TONE ATHARVAVEDIC INDEPENDENT SVARITA|2CANDRA ABOVE|3BELOW",
  "2DOT BELOW|2DOUBLE RING ABOVE|3SVARITA|2KARSHANA|2KATHAKA ANUDATTA|2PRENKHA",
  "2RIGVEDIC KASHMIRI INDEPENDENT SVARITA|2RING ABOVE|2SHARA|2THREE DOTS BELOW|2TRIPLE SVARITA",
  "2TWO DOTS BELOW|2YAJURVEDIC AGGRAVATED INDEPENDENT SVARITA|3INDEPENDENT SVARITA",
  "3KATHAKA INDEPENDENT SVARITA|6SCHROEDER|0VERSICLE|0VERTICAL BAR BESIDE RIGHT TRIANGLE",
  "2DOUBLE LEFT TURNSTILE|2TRIPLE RIGHT TURNSTILE|2WITH HORIZONTAL STROKE|1ELLIPSIS|1FOUR DOTS",
  "1IDEOGRAPHIC ITERATION MARK|1KANA REPEAT MARK|4LOWER HALF|4UPPER HALF|3WITH VOICED SOUND MARK",
  "7UPPER HALF|1LINE|2EXTENSION|2WITH CIRCLE ABOVE|4BELOW|3MIDDLE DOT|1MALE WITH STROKE SIGN",
  "1ONE EIGHTH BLOCK-2|3BLOCK-3|3BLOCK-4|3BLOCK-5|3BLOCK-6|3BLOCK-7|1SIX DOTS|1TAB KEY|1TABULATION",
  "2SET|1TILDE|1TRAFFIC LIGHT|1ZIGZAG LINE|0VERY BOLD GREEK CROSS|1HEAVY EIGHT POINTED BLACK STAR",
  "3SPOKED ASTERISK|2FIVE SPOKED ASTERISK|2GREEK CROSS|2REVERSE SOLIDUS|2SALTIRE",
  "2SIX SPOKED ASTERISK|2SOLIDUS|2WHITE CIRCLE|3SQUARE|1MUCH GREATER-THAN|2LESS-THAN|0VESTA",
  "0VIBRATION MODE|0VICTORY HAND|0VIDEO CAMERA|1GAME|0VIDEOCASSETTE",
  "0VIETNAMESE ALTERNATE READING MARK CA|4NHAY|0VIEWDATA SQUARE|0VIOLIN|0VIRGO",
  "0VITHKUQI CAPITAL LETTER A|3BBE|3BE|3CE|3CHE|3DE|3DHE|3E|3EI|3FE|3GA|3HA|3HHA|3I|3IJE|3JE|3KA",
  "3LA|3LLA|3ME|3NE|3NJE|3O|3PE|3QA|3RE|3SE|3SHE|3TE|3THE|3U|3VE|3XE|3Y|3ZE|1SMALL LETTER A|3BBE",
  "3BE|3CE|3CHE|3DE|3DHE|3E|3EI|3FE|3GA|3HA|3HHA|3I|3IJE|3JE|3KA|3LA|3LLA|3ME|3NE|3NJE|3O|3PE|3QA",
  "3RE|3SE|3SHE|3TE|3THE|3U|3VE|3XE|3Y|3ZE|0VOIDED GREEK CROSS|0VOLCANO|0VOLLEYBALL",
  "0VOLUME INTEGRAL|0VS1|0VS10|0VS100|0VS101|0VS102|0VS103|0VS104|0VS105|0VS106|0VS107|0VS108",
  "0VS109|0VS11|0VS110|0VS111|0VS112|0VS113|0VS114|0VS115|0VS116|0VS117|0VS118|0VS119|0VS12|0VS120",
  "0VS121|0VS122|0VS123|0VS124|0VS125|0VS126|0VS127|0VS128|0VS129|0VS13|0VS130|0VS131|0VS132",
  "0VS133|0VS134|0VS135|0VS136|0VS137|0VS138|0VS139|0VS14|0VS140|0VS141|0VS142|0VS143|0VS144",
  "0VS145|0VS146|0VS147|0VS148|0VS149|0VS15|0VS150|0VS151|0VS152|0VS153|0VS154|0VS155|0VS156",
  "0VS157|0VS158|0VS159|0VS16|0VS160|0VS161|0VS162|0VS163|0VS164|0VS165|0VS166|0VS167|0VS168",
  "0VS169|0VS17|0VS170|0VS171|0VS172|0VS173|0VS174|0VS175|0VS176|0VS177|0VS178|0VS179|0VS18|0VS180",
  "0VS181|0VS182|0VS183|0VS184|0VS185|0VS186|0VS187|0VS188|0VS189|0VS19|0VS190|0VS191|0VS192",
  "0VS193|0VS194|0VS195|0VS196|0VS197|0VS198|0VS199|0VS2|0VS20|0VS200|0VS201|0VS202|0VS203|0VS204",
  "0VS205|0VS206|0VS207|0VS208|0VS209|0VS21|0VS210|0VS211|0VS212|0VS213|0VS214|0VS215|0VS216",
  "0VS217|0VS218|0VS219|0VS22|0VS220|0VS221|0VS222|0VS223|0VS224|0VS225|0VS226|0VS227|0VS228",
  "0VS229|0VS23|0VS230|0VS231|0VS232|0VS233|0VS234|0VS235|0VS236|0VS237|0VS238|0VS239|0VS24|0VS240",
  "0VS241|0VS242|0VS243|0VS244|0VS245|0VS246|0VS247|0VS248|0VS249|0VS25|0VS250|0VS251|0VS252",
  "0VS253|0VS254|0VS255|0VS256|0VS26|0VS27|0VS28|0VS29|0VS3|0VS30|0VS31|0VS32|0VS33|0VS34|0VS35",
  "0VS36|0VS37|0VS38|0VS39|0VS4|0VS40|0VS41|0VS42|0VS43|0VS44|0VS45|0VS46|0VS47|0VS48|0VS49|0VS5",
  "0VS50|0VS51|0VS52|0VS53|0VS54|0VS55|0VS56|0VS57|0VS58|0VS59|0VS6|0VS60|0VS61|0VS62|0VS63|0VS64",
  "0VS65|0VS66|0VS67|0VS68|0VS69|0VS7|0VS70|0VS71|0VS72|0VS73|0VS74|0VS75|0VS76|0VS77|0VS78|0VS79",
  "0VS8|0VS80|0VS81|0VS82|0VS83|0VS84|0VS85|0VS86|0VS87|0VS88|0VS89|0VS9|0VS90|0VS91|0VS92|0VS93",
  "0VS94|0VS95|0VS96|0VS97|0VS98|0VS99|0VT|0VTS|0VULCANUS|0VULGAR FRACTION FIVE EIGHTHS|3SIXTHS",
  "2FOUR FIFTHS|2ONE EIGHTH|3FIFTH|3HALF|3NINTH|3QUARTER|3SEVENTH|3SIXTH|3TENTH|3THIRD",
  "2SEVEN EIGHTHS|2THREE EIGHTHS|3FIFTHS|3QUARTERS|2TWO FIFTHS|3THIRDS|2ZERO THIRDS|0WAFFLE",
  "0WANCHO DIGIT EIGHT|2FIVE|2FOUR|2NINE|2ONE|2SEVEN|2SIX|2THREE|2TWO|2ZERO|1LETTER A|2AA|2AAN",
  "2AANG|2ANG|2AU|2BA|2CA|2DA|2E|2EN|2FA|2GA|2HA|2I|2ING|2JA|2KA|2KHA|2LA|2LLHA|2MA|2NA|2NGA|2NYA",
  "2O|2ON|2ONG|2PA|2PHA|2RA|2SA|2SHA|2TA|2THA|2TRA|2TSA|2U|2UEN|2VA|2WA|2YA|2YIH|2ZA|1NGUN SIGN",
  "1TONE KOI|2KOINI|2TUP|2TUPNI|0WANING CRESCENT MOON SYMBOL|1GIBBOUS MOON SYMBOL",
  "0WARANG CITI CAPITAL LETTER A|4AM|4ANG|4AT|4BU|4DA|4E|4ENN|4ENY|4GA|4HAR|4HIYO|4HOLO|4HORR|4II",
  "4KO|4NGAA|4NUNG|4O|4ODD|4PU|4SII|4SSUU|4TTE|4UC|4UU|4VIYO|4WI|4YA|4YO|4YU|4YUJ|2DIGIT EIGHT",
  "3FIVE|3FOUR|3NINE|3ONE|3SEVEN|3SIX|3THREE|3TWO|3ZERO|2NUMBER EIGHTY|3FIFTY|3FORTY|3NINETY",
  "3SEVENTY|3SIXTY|3TEN|3THIRTY|3TWENTY|2OM|2SMALL LETTER A|4AM|4ANG|4AT|4BU|4DA|4E|4ENN|4ENY|4GA",
  "4HAR|4HIYO|4HOLO|4HORR|4II|4KO|4NGAA|4NUNG|4O|4ODD|4PU|4SII|4SSUU|4TTE|4UC|4UU|4VIYO|4WI|4YA",
  "4YO|4YU|4YUJ|0WARNING SIGN|0WASTEBASKET|0WATCH|0WATER BUFFALO|1CLOSET|1POLO|1WAVE|0WATERMELON",
  "0WAVE ARROW POINTING DIRECTLY LEFT|4RIGHT|1DASH|0WAVING BLACK FLAG|1HAND SIGN|1WHITE FLAG",
  "0WAVY DASH|1LINE|1LOW LINE|1OVERLINE|0WAXING CRESCENT MOON SYMBOL|1GIBBOUS MOON SYMBOL",
  "0WEARY CAT FACE|1FACE|0WEDDING|0WEDGE-TAILED RIGHTWARDS ARROW|0WEIERSTRASS ELLIPTIC FUNCTION",
  "0WEIGHT LIFTER|0WEST SYRIAC CROSS|0WHALE|0WHEEL|1OF DHARMA|0WHEELCHAIR SYMBOL",
  "0WHITE ARROW SHAFT WIDTH ONE|4TWO THIRDS|1BULLET|1CHESS BISHOP|3ROTATED NINETY DEGREES",
  "4TWO HUNDRED SEVENTY DEGREES|2EQUIHOPPER|3ROTATED NINETY DEGREES|2KING|3ROTATED NINETY DEGREES",
  "4TWO HUNDRED SEVENTY DEGREES|2KNIGHT|3ROTATED FORTY-FIVE DEGREES|4NINETY DEGREES",
  "4ONE HUNDRED THIRTY-FIVE DEGREES|4THREE HUNDRED FIFTEEN DEGREES|4TWO HUNDRED SEVENTY DEGREES",
  "6TWENTY-FIVE DEGREES|2KNIGHT-BISHOP|2KNIGHT-QUEEN|2KNIGHT-ROOK|2PAWN|3ROTATED NINETY DEGREES",
  "4TWO HUNDRED SEVENTY DEGREES|2QUEEN|3ROTATED NINETY DEGREES|4TWO HUNDRED SEVENTY DEGREES|2ROOK",
  "3ROTATED NINETY DEGREES|4TWO HUNDRED SEVENTY DEGREES|2TURNED BISHOP|3KING|3KNIGHT|3PAWN|3QUEEN",
  "3ROOK|1CIRCLE|2CONTAINING BLACK SMALL CIRCLE|2WITH DOT RIGHT|3DOWN ARROW|3LOWER LEFT QUADRANT",
  "4RIGHT QUADRANT|3TWO DOTS|3UPPER LEFT QUADRANT|4RIGHT QUADRANT|1CLUB SUIT",
  "1CONCAVE-SIDED DIAMOND|3WITH LEFTWARDS TICK|4RIGHTWARDS TICK|1DIAMOND",
  "2CONTAINING BLACK MEDIUM DIAMOND|4SMALL DIAMOND|4VERY SMALL DIAMOND|2IN SQUARE|2SUIT",
  "2WITH CENTRED DOT|1DOWN POINTING BACKHAND INDEX|3INDEX|3LEFT HAND INDEX",
  "1DOWN-POINTING SMALL TRIANGLE|2TRIANGLE|1DRAUGHTS KING|2MAN|1EXCLAMATION MARK ORNAMENT|1FLAG",
  "2WITH HORIZONTAL MIDDLE BLACK STRIPE|1FLORETTE|1FLOWER|1FOUR POINTED CUSP|3STAR|1FROWNING FACE",
  "1HARD SHELL FLOPPY DISK|1HEART|2SUIT|1HEAVY CHECK MARK|2SALTIRE WITH ROUNDED CORNERS|1HEXAGON",
  "1HORIZONTAL ELLIPSE|1HOURGLASS|1LARGE SQUARE|1LATIN CROSS|1LEFT LANE MERGE",
  "2POINTING BACKHAND INDEX|3INDEX|1LEFT-POINTING POINTER|2SMALL TRIANGLE|2TRIANGLE",
  "1LOZENGE CONTAINING BLACK SMALL LOZENGE|1MEDIUM DIAMOND|2LOZENGE|2SMALL SQUARE|2SQUARE|2STAR",
  "1MOON SELENA|1NIB|1PARALLELOGRAM|1PENNANT|1PENTAGON|1QUESTION MARK ORNAMENT|1RECTANGLE",
  "1RIGHT POINTING BACKHAND INDEX|3INDEX|1RIGHT-POINTING PENTAGON|2POINTER|2SMALL TRIANGLE",
  "2TRIANGLE|1SCISSORS|1SESAME DOT|1SHOGI PIECE|1SMALL LOZENGE|2SQUARE|2STAR|1SMILING FACE",
  "1SPADE SUIT|1SQUARE|2BUTTON|2CONTAINING BLACK MEDIUM SQUARE|4SMALL SQUARE|4VERY SMALL SQUARE",
  "2WITH CENTRE VERTICAL LINE|3LEFTWARDS TICK|3LOWER LEFT QUADRANT|4RIGHT QUADRANT",
  "3RIGHTWARDS TICK|3ROUNDED CORNERS|3UPPER LEFT QUADRANT|4RIGHT QUADRANT|3VERTICAL BISECTING LINE",
  "1STAR|1SUN|2BEHIND CLOUD|4WITH RAIN|2WITH RAYS|3SMALL CLOUD|1TELEPHONE|1TOUCHTONE TELEPHONE",
  "1TRAPEZIUM|1TRIANGLE CONTAINING SMALL WHITE TRIANGLE|1TWO-WAY LEFT WAY TRAFFIC",
  "1UP POINTING BACKHAND INDEX|3INDEX|1UP-POINTING CHEVRON|2SMALL TRIANGLE|2TRIANGLE|3WITH DOT",
  "1VERTICAL BAR|2ELLIPSE|2RECTANGLE|1VERY SMALL SQUARE|0WHITE-FEATHERED RIGHTWARDS ARROW",
  "0WIDE-HEADED DOWNWARDS BARB ARROW|2HEAVY BARB ARROW|2LIGHT BARB ARROW|2MEDIUM BARB ARROW",
  "2VERY HEAVY BARB ARROW|1LEFTWARDS BARB ARROW|2HEAVY BARB ARROW|2LIGHT BARB ARROW",
  "2MEDIUM BARB ARROW|2VERY HEAVY BARB ARROW|1NORTH EAST BARB ARROW|3HEAVY BARB ARROW",
  "3LIGHT BARB ARROW|3MEDIUM BARB ARROW|3VERY HEAVY BARB ARROW|2WEST BARB ARROW|3HEAVY BARB ARROW",
  "3LIGHT BARB ARROW|3MEDIUM BARB ARROW|3VERY HEAVY BARB ARROW|1RIGHTWARDS BARB ARROW",
  "2HEAVY BARB ARROW|2LIGHT BARB ARROW|2MEDIUM BARB ARROW|2VERY HEAVY BARB ARROW",
  "1SOUTH EAST BARB ARROW|3HEAVY BARB ARROW|3LIGHT BARB ARROW|3MEDIUM BARB ARROW",
  "3VERY HEAVY BARB ARROW|2WEST BARB ARROW|3HEAVY BARB ARROW|3LIGHT BARB ARROW|3MEDIUM BARB ARROW",
  "3VERY HEAVY BARB ARROW|1UPWARDS BARB ARROW|2HEAVY BARB ARROW|2LIGHT BARB ARROW",
  "2MEDIUM BARB ARROW|2VERY HEAVY BARB ARROW|0WIGGLY VERTICAL LINE|0WILTED FLOWER",
  "0WIND BLOWING FACE|1CHIME|0WINDOW|0WINE GLASS|0WINKING FACE|0WIRED KEYBOARD|0WJ|0WOLF FACE",
  "0WOMAN|1WITH BUNNY EARS|0WOMANS BOOTS|1CLOTHES|1HAT|1SANDAL|0WOMENS SYMBOL|0WON SIGN|0WOOD",
  "0WORD JOINER|1SEPARATOR MIDDLE DOT|0WORLD MAP|0WORM|0WORRIED FACE|0WRAPPED PRESENT",
  "0WREATH PRODUCT|0WRENCH|0WRESTLERS|0WRITING HAND|0X IN A RECTANGLE BOX|0X-RAY",
  "0XIANGQI BLACK CANNON|2CHARIOT|2ELEPHANT|2GENERAL|2HORSE|2MANDARIN|2SOLDIER|1RED CANNON",
  "2CHARIOT|2ELEPHANT|2GENERAL|2HORSE|2MANDARIN|2SOLDIER|0XOR|0YAWNING FACE|0YELLOW HEART",
  "0YEN SIGN|0YEZIDI COMBINING HAMZA MARK|2MADDA MARK|1HYPHENATION MARK|1LETTER BE|2CHHIM|2CHIM",
  "2CIM|2DAD|2DAL|2ELIF|2ET|2EW|2EYN|2FA|2GAF|2HAY|2HHA|2JA|2KAF|2KHAF|2LAM|3WITH DOT ABOVE|2MIM",
  "2NUN|2OW|2PE|2PHE|2QAF|2RA|2RHA|2SAD|2SE|2SHIN|2SIN|2TA|2THE|2UM|2VA|3ALTERNATE FORM|2WAW|2XA",
  "2XHEYN|2YOT|3WITH CIRCUMFLEX ABOVE|2ZA|2ZAL|2ZE|0YI RADICAL BBUT|2BUR|2CHE|2CIP|2CUOP|2CY|2CYP",
  "2CYT|2DDUR|2DU|2GA|2GEP|2GGOP|2GGUO|2GOT|2HMO|2HXIT|2HXOP|2HXUO|2JJIE|2JJUT|2JJY|2JO|2KE|2KIT",
  "2LI|2LIE|2LYR|2MI|2MOP|2NBIE|2NYIP|2NYOP|2NZUP|2OP|2PUT|2PYT|2QOT|2SHAT|2SHOP|2SHUR|2SHY|2SSI",
  "2TAT|2TU|2VEP|2VUR|2WO|2YIT|2YO|2ZA|2ZOT|2ZUP|2ZUR|2ZZIET|1SYLLABLE A|2AP|2AT|2AX|2BA|2BAP|2BAT",
  "2BAX|2BBA|2BBAP|2BBAT|2BBAX|2BBE|2BBEP|2BBEX|2BBI|2BBIE|2BBIEP|2BBIET|2BBIEX|2BBIP|2BBIT|2BBIX",
  "2BBO|2BBOP|2BBOT|2BBOX|2BBU|2BBUO|2BBUOP|2BBUOX|2BBUP|2BBUR|2BBURX|2BBUT|2BBUX|2BBY|2BBYP|2BBYT",
  "2BBYX|2BE|2BEP|2BEX|2BI|2BIE|2BIEP|2BIET|2BIEX|2BIP|2BIT|2BIX|2BO|2BOP|2BOT|2BOX|2BU|2BUO|2BUOP",
  "2BUOX|2BUP|2BUR|2BURX|2BUT|2BUX|2BY|2BYP|2BYR|2BYRX|2BYT|2BYX|2CA|2CAP|2CAT|2CAX|2CE|2CEP|2CEX",
  "2CHA|2CHAP|2CHAT|2CHAX|2CHE|2CHEP|2CHET|2CHEX|2CHO|2CHOP|2CHOT|2CHOX|2CHU|2CHUO|2CHUOP|2CHUOT",
  "2CHUOX|2CHUP|2CHUR|2CHURX|2CHUX|2CHY|2CHYP|2CHYR|2CHYRX|2CHYT|2CHYX|2CI|2CIE|2CIEP|2CIET|2CIEX",
  "2CIP|2CIT|2CIX|2CO|2COP|2COT|2COX|2CU|2CUO|2CUOP|2CUOX|2CUP|2CUR|2CURX|2CUT|2CUX|2CY|2CYP|2CYR",
  "2CYRX|2CYT|2CYX|2DA|2DAP|2DAT|2DAX|2DDA|2DDAP|2DDAT|2DDAX|2DDE|2DDEP|2DDEX|2DDI|2DDIE|2DDIEP",
  "2DDIEX|2DDIP|2DDIT|2DDIX|2DDO|2DDOP|2DDOT|2DDOX|2DDU|2DDUO|2DDUOP|2DDUOX|2DDUP|2DDUR|2DDURX",
  "2DDUT|2DDUX|2DE|2DEP|2DEX|2DI|2DIE|2DIEP|2DIEX|2DIP|2DIT|2DIX|2DO|2DOP|2DOT|2DOX|2DU|2DUO|2DUOX",
  "2DUP|2DUR|2DURX|2DUT|2DUX|2E|2EX|2FA|2FAP|2FAT|2FAX|2FI|2FIP|2FIT|2FIX|2FO|2FOP|2FOX|2FU|2FUP",
  "2FUR|2FURX|2FUT|2FUX|2FY|2FYP|2FYT|2FYX|2GA|2GAP|2GAT|2GAX|2GE|2GEP|2GET|2GEX|2GGA|2GGAP|2GGAT",
  "2GGAX|2GGE|2GGEP|2GGET|2GGEX|2GGI|2GGIE|2GGIEP|2GGIEX|2GGIT|2GGIX|2GGO|2GGOP|2GGOT|2GGOX|2GGU",
  "2GGUO|2GGUOP|2GGUOT|2GGUOX|2GGUP|2GGUR|2GGURX|2GGUT|2GGUX|2GI|2GIE|2GIEP|2GIET|2GIEX|2GIP|2GIT",
  "2GIX|2GO|2GOP|2GOT|2GOX|2GU|2GUO|2GUOP|2GUOT|2GUOX|2GUP|2GUR|2GURX|2GUT|2GUX|2HA|2HAP|2HAT|2HAX",
  "2HE|2HEP|2HEX|2HIE|2HIEX|2HIT|2HLA|2HLAP|2HLAT|2HLAX|2HLE|2HLEP|2HLEX|2HLI|2HLIE|2HLIEP|2HLIEX",
  "2HLIP|2HLIT|2HLIX|2HLO|2HLOP|2HLOX|2HLU|2HLUO|2HLUOP|2HLUOX|2HLUP|2HLUR|2HLURX|2HLUT|2HLUX|2HLY",
  "2HLYP|2HLYR|2HLYRX|2HLYT|2HLYX|2HMA|2HMAP|2HMAT|2HMAX|2HMI|2HMIE|2HMIEP|2HMIEX|2HMIP|2HMIT",
  "2HMIX|2HMO|2HMOP|2HMOT|2HMOX|2HMU|2HMUO|2HMUOP|2HMUOX|2HMUP|2HMUR|2HMURX|2HMUT|2HMUX|2HMY|2HMYP",
  "2HMYR|2HMYRX|2HMYX|2HNA|2HNAP|2HNAT|2HNAX|2HNE|2HNEP|2HNEX|2HNI|2HNIE|2HNIEP|2HNIET|2HNIEX",
  "2HNIP|2HNIT|2HNIX|2HNOP|2HNOT|2HNOX|2HNUO|2HNUOX|2HNUT|2HO|2HOP|2HOT|2HOX|2HUO|2HUOP|2HUOT",
  "2HUOX|2HXA|2HXAP|2HXAT|2HXAX|2HXE|2HXEP|2HXEX|2HXI|2HXIE|2HXIEP|2HXIET|2HXIEX|2HXIP|2HXIT|2HXIX",
  "2HXO|2HXOP|2HXOT|2HXOX|2HXUO|2HXUOP|2HXUOT|2HXUOX|2I|2IE|2IEP|2IET|2IEX|2IP|2IT|2ITERATION MARK",
  "2IX|2JI|2JIE|2JIEP|2JIET|2JIEX|2JIP|2JIT|2JIX|2JJI|2JJIE|2JJIEP|2JJIET|2JJIEX|2JJIP|2JJIT|2JJIX",
  "2JJO|2JJOP|2JJOT|2JJOX|2JJU|2JJUO|2JJUOP|2JJUOX|2JJUP|2JJUR|2JJURX|2JJUT|2JJUX|2JJY|2JJYP|2JJYT",
  "2JJYX|2JO|2JOP|2JOT|2JOX|2JU|2JUO|2JUOP|2JUOT|2JUOX|2JUP|2JUR|2JURX|2JUT|2JUX|2JY|2JYP|2JYR",
  "2JYRX|2JYT|2JYX|2KA|2KAP|2KAT|2KAX|2KE|2KEP|2KET|2KEX|2KI|2KIE|2KIEP|2KIEX|2KIP|2KIT|2KIX|2KO",
  "2KOP|2KOT|2KOX|2KU|2KUO|2KUOP|2KUOX|2KUP|2KUR|2KURX|2KUT|2KUX|2LA|2LAP|2LAT|2LAX|2LE|2LEP|2LEX",
  "2LI|2LIE|2LIEP|2LIET|2LIEX|2LIP|2LIT|2LIX|2LO|2LOP|2LOT|2LOX|2LU|2LUO|2LUOP|2LUOT|2LUOX|2LUP",
  "2LUR|2LURX|2LUT|2LUX|2LY|2LYP|2LYR|2LYRX|2LYT|2LYX|2MA|2MAP|2MAT|2MAX|2ME|2MEX|2MGA|2MGAP|2MGAT",
  "2MGAX|2MGE|2MGEP|2MGEX|2MGIE|2MGIEX|2MGO|2MGOP|2MGOT|2MGOX|2MGU|2MGUO|2MGUOP|2MGUOX|2MGUP|2MGUR",
  "2MGURX|2MGUT|2MGUX|2MI|2MIE|2MIEP|2MIEX|2MIP|2MIT|2MIX|2MO|2MOP|2MOT|2MOX|2MU|2MUO|2MUOP|2MUOT",
  "2MUOX|2MUP|2MUR|2MURX|2MUT|2MUX|2MY|2MYP|2MYT|2MYX|2NA|2NAP|2NAX|2NBA|2NBAP|2NBAT|2NBAX|2NBI",
  "2NBIE|2NBIEP|2NBIEX|2NBIP|2NBIT|2NBIX|2NBO|2NBOP|2NBOT|2NBOX|2NBU|2NBUP|2NBUR|2NBURX|2NBUT",
  "2NBUX|2NBY|2NBYP|2NBYR|2NBYRX|2NBYT|2NBYX|2NDA|2NDAP|2NDAT|2NDAX|2NDE|2NDEP|2NDEX|2NDI|2NDIE",
  "2NDIEX|2NDIP|2NDIT|2NDIX|2NDO|2NDOP|2NDOT|2NDOX|2NDU|2NDUP|2NDUR|2NDURX|2NDUT|2NDUX|2NE|2NEP",
  "2NEX|2NGA|2NGAP|2NGAT|2NGAX|2NGE|2NGEP|2NGEX|2NGIE|2NGIEP|2NGIEX|2NGO|2NGOP|2NGOT|2NGOX|2NGUO",
  "2NGUOT|2NGUOX|2NI|2NIE|2NIEP|2NIEX|2NIP|2NIT|2NIX|2NJI|2NJIE|2NJIEP|2NJIET|2NJIEX|2NJIP|2NJIT",
  "2NJIX|2NJO|2NJOP|2NJOT|2NJOX|2NJU|2NJUO|2NJUOX|2NJUP|2NJUR|2NJURX|2NJUX|2NJY|2NJYP|2NJYR|2NJYRX",
  "2NJYT|2NJYX|2NO|2NOP|2NOT|2NOX|2NRA|2NRAP|2NRAT|2NRAX|2NRE|2NREP|2NRET|2NREX|2NRO|2NROP|2NROX",
  "2NRU|2NRUP|2NRUR|2NRURX|2NRUT|2NRUX|2NRY|2NRYP|2NRYR|2NRYRX|2NRYT|2NRYX|2NU|2NUO|2NUOP|2NUOX",
  "2NUP|2NUR|2NURX|2NUT|2NUX|2NYI|2NYIE|2NYIEP|2NYIET|2NYIEX|2NYIP|2NYIT|2NYIX|2NYO|2NYOP|2NYOT",
  "2NYOX|2NYU|2NYUO|2NYUOP|2NYUOX|2NYUP|2NYUT|2NYUX|2NZA|2NZAP|2NZAT|2NZAX|2NZE|2NZEX|2NZI|2NZIE",
  "2NZIEP|2NZIEX|2NZIP|2NZIT|2NZIX|2NZOP|2NZOX|2NZU|2NZUO|2NZUOX|2NZUP|2NZUR|2NZURX|2NZUX|2NZY",
  "2NZYP|2NZYR|2NZYRX|2NZYT|2NZYX|2O|2OP|2OT|2OX|2PA|2PAP|2PAT|2PAX|2PI|2PIE|2PIEP|2PIEX|2PIP|2PIT",
  "2PIX|2PO|2POP|2POT|2POX|2PU|2PUO|2PUOP|2PUOX|2PUP|2PUR|2PURX|2PUT|2PUX|2PY|2PYP|2PYR|2PYRX|2PYT",
  "2PYX|2QI|2QIE|2QIEP|2QIET|2QIEX|2QIP|2QIT|2QIX|2QO|2QOP|2QOT|2QOX|2QU|2QUO|2QUOP|2QUOT|2QUOX",
  "2QUP|2QUR|2QURX|2QUT|2QUX|2QY|2QYP|2QYR|2QYRX|2QYT|2QYX|2RA|2RAP|2RAT|2RAX|2RE|2REP|2REX|2RO",
  "2ROP|2ROT|2ROX|2RRA|2RRAX|2RRE|2RREP|2RRET|2RREX|2RRO|2RROP|2RROT|2RROX|2RRU|2RRUO|2RRUOX|2RRUP",
  "2RRUR|2RRURX|2RRUT|2RRUX|2RRY|2RRYP|2RRYR|2RRYRX|2RRYT|2RRYX|2RU|2RUO|2RUOP|2RUOX|2RUP|2RUR",
  "2RURX|2RUT|2RUX|2RY|2RYP|2RYR|2RYRX|2RYT|2RYX|2SA|2SAP|2SAT|2SAX|2SE|2SEP|2SEX|2SHA|2SHAP|2SHAT",
  "2SHAX|2SHE|2SHEP|2SHET|2SHEX|2SHO|2SHOP|2SHOT|2SHOX|2SHU|2SHUO|2SHUOP|2SHUOX|2SHUP|2SHUR|2SHURX",
  "2SHUT|2SHUX|2SHY|2SHYP|2SHYR|2SHYRX|2SHYT|2SHYX|2SI|2SIE|2SIEP|2SIEX|2SIP|2SIT|2SIX|2SO|2SOP",
  "2SOT|2SOX|2SSA|2SSAP|2SSAT|2SSAX|2SSE|2SSEP|2SSEX|2SSI|2SSIE|2SSIEP|2SSIEX|2SSIP|2SSIT|2SSIX",
  "2SSO|2SSOP|2SSOT|2SSOX|2SSU|2SSUP|2SSUT|2SSUX|2SSY|2SSYP|2SSYR|2SSYRX|2SSYT|2SSYX|2SU|2SUO",
  "2SUOP|2SUOX|2SUP|2SUR|2SURX|2SUT|2SUX|2SY|2SYP|2SYR|2SYRX|2SYT|2SYX|2TA|2TAP|2TAT|2TAX|2TE|2TEP",
  "2TEX|2TI|2TIE|2TIEP|2TIEX|2TIP|2TIT|2TIX|2TO|2TOP|2TOT|2TOX|2TU|2TUO|2TUOP|2TUOT|2TUOX|2TUP",
  "2TUR|2TURX|2TUT|2TUX|2UO|2UOP|2UOX|2VA|2VAP|2VAT|2VAX|2VEP|2VEX|2VI|2VIE|2VIEP|2VIET|2VIEX|2VIP",
  "2VIT|2VIX|2VO|2VOP|2VOT|2VOX|2VU|2VUP|2VUR|2VURX|2VUT|2VUX|2VY|2VYP|2VYR|2VYRX|2VYT|2VYX|2WA",
  "2WAP|2WAT|2WAX|2WE|2WEP|2WEX|2WO|2WOP|2WOX|2WU|2WUO|2WUOP|2WUOX|2XI|2XIE|2XIEP|2XIET|2XIEX|2XIP",
  "2XIT|2XIX|2XO|2XOP|2XOT|2XOX|2XUO|2XUOX|2XY|2XYP|2XYR|2XYRX|2XYT|2XYX|2YI|2YIE|2YIEP|2YIET",
  "2YIEX|2YIP|2YIT|2YIX|2YO|2YOP|2YOT|2YOX|2YU|2YUO|2YUOP|2YUOT|2YUOX|2YUP|2YUR|2YURX|2YUT|2YUX",
  "2YY|2YYP|2YYR|2YYRX|2YYT|2YYX|2ZA|2ZAP|2ZAT|2ZAX|2ZE|2ZEP|2ZEX|2ZHA|2ZHAP|2ZHAT|2ZHAX|2ZHE",
  "2ZHEP|2ZHET|2ZHEX|2ZHO|2ZHOP|2ZHOT|2ZHOX|2ZHU|2ZHUO|2ZHUOP|2ZHUOX|2ZHUP|2ZHUR|2ZHURX|2ZHUT",
  "2ZHUX|2ZHY|2ZHYP|2ZHYR|2ZHYRX|2ZHYT|2ZHYX|2ZI|2ZIE|2ZIEP|2ZIEX|2ZIP|2ZIT|2ZIX|2ZO|2ZOP|2ZOT",
  "2ZOX|2ZU|2ZUO|2ZUOP|2ZUOX|2ZUP|2ZUR|2ZURX|2ZUT|2ZUX|2ZY|2ZYP|2ZYR|2ZYRX|2ZYT|2ZYX|2ZZA|2ZZAP",
  "2ZZAT|2ZZAX|2ZZE|2ZZEP|2ZZEX|2ZZI|2ZZIE|2ZZIEP|2ZZIET|2ZZIEX|2ZZIP|2ZZIT|2ZZIX|2ZZO|2ZZOP|2ZZOX",
  "2ZZU|2ZZUP|2ZZUR|2ZZURX|2ZZUX|2ZZY|2ZZYP|2ZZYR|2ZZYRX|2ZZYT|2ZZYX|0YIN YANG|0YO-YO",
  "0Z NOTATION BAG MEMBERSHIP|2DOMAIN ANTIRESTRICTION|2LEFT BINDING BRACKET|3IMAGE BRACKET",
  "2RANGE ANTIRESTRICTION|2RELATIONAL COMPOSITION|2RIGHT BINDING BRACKET|3IMAGE BRACKET",
  "2SCHEMA COMPOSITION|3PIPING|3PROJECTION|2SPOT|2TYPE COLON",
  "0ZANABAZAR SQUARE CLOSING DOUBLE-LINED HEAD MARK|3HEAD MARK|2CLUSTER-FINAL LETTER LA|4RA|4VA",
  "4YA|2CLUSTER-INITIAL LETTER RA|2FINAL CONSONANT MARK|2INITIAL DOUBLE-LINED HEAD MARK|3HEAD MARK",
  "2LETTER -A|3A|3BA|3BHA|3CA|3CHA|3DA|3DDA|3DDHA|3DHA|3DZA|3DZHA|3GA|3GHA|3HA|3JA|3KA|3KHA|3KSSA",
  "3LA|3MA|3NA|3NGA|3NNA|3NYA|3PA|3PHA|3RA|3SA|3SHA|3SSA|3TA|3THA|3TSA|3TSHA|3TTA|3TTHA|3VA|3YA",
  "3ZA|3ZHA|2MARK DOUBLE SHAD|3LONG TSHEG|3SHAD|3TSHEG|2SIGN ANUSVARA|3CANDRA WITH ORNAMENT",
  "3CANDRABINDU|4WITH ORNAMENT|3VIRAMA|3VISARGA|2SUBJOINER|2VOWEL LENGTH MARK|3SIGN AI|4AU|4E|4I",
  "4O|4OE|4REVERSED I|4U|4UE|0ZEBRA FACE|0ZERO WIDTH JOINER|2NO-BREAK SPACE|2NON-JOINER|2SPACE",
  "0ZEUS|0ZIPPER-MOUTH FACE|0ZNAMENNY COMBINING ATTACHING VERTICAL OMET",
  "2LOWER TONAL RANGE INDICATOR|2MARK BORZAYA|3CHASHKA|4POLNAYA|3CURVED OMET",
  "3DEMESTVENNY ZADERZHKA|3DVOETOCHIE|3GORAZDO NIZKO ON LEFT|6RIGHT|5S KRYZHEM ON LEFT|8RIGHT",
  "4VYSOKO|3KACHKA|3KRYZH|4ON LEFT|3KUPNAYA|3LOMKA|3MALO POVYSHE ON LEFT|6RIGHT",
  "5S KHOKHLOM ON LEFT|8RIGHT|6KRYZHEM|5STRANNO|3NIZKO ON LEFT|5RIGHT|4S KRYZHEM ON LEFT|7RIGHT",
  "3OBLACHKO|3ON|3OTSECHKA|3PODCHASHIE|4WITH VERTICAL STROKE|3PODVERTKA|3POVYSHE ON LEFT|5RIGHT",
  "4S KHOKHLOM ON LEFT|7RIGHT|5KRYZHEM|4STRANNO|3RAVNO|3RAZSEKA|3SKOBA|3SOROCHYA NOZHKA",
  "3SREDNE ON LEFT|5RIGHT|3STRANNO MALO POVYSHE|3TIKHAYA|3TOCHKA|3TSATA ON LEFT|5RIGHT|4S KRYZHEM",
  "3UDARKA|3VYSOKO ON LEFT|5RIGHT|4S KHOKHLOM ON LEFT|7RIGHT|5KRYZHEM|3ZADERZHKA|3ZELO|3ZEVOK",
  "2TONAL RANGE MARK MRACHNO|5SVETLO|5TRESVETLO|1NEUME CHASHKA|2CHELYUSTKA|2DEMESTVENNY KLYUCH",
  "2DERBITSA|2DOUBLE ZAPYATAYA|2DUDA|2DVA V CHELNU|2FITA|2GOLUBCHIK BORZY|3MRACHNY|3SVETLY|3TIKHY",
  "3TRESVETLY|2KHAMILO|2KLYUCH|2KOBYLA|2KRYUK|3TIKHY|2KRYZH|2KUFISMA|2MECHIK|3KLYUCHENEPOSTOYANNY",
  "3KLYUCHEPOVODNY|3KLYUCHEVOY|3POVODNY|2NEMKA|2OBLAKO|2OSOKA|3KLYUCHEVAYA NEPOSTOYANNAYA",
  "4SVETLAYA|3KRYUKOVAYA SVETLAYA|3SVETLAYA|3TRESVETLAYA|2PALKA|2PARAKLIT|2PAUK|2PEREVODKA",
  "3NEPOSTOYANNAYA|2PODCHASHIE|2POLKULIZMY|2REVERSED CHELYUSTKA|2ROG",
  "2SKAMEYTSA DVOECHELNAYA KLYUCHEVAYA|4NEPOSTOYANNAYA|4PROSTAYA|4SVETLAYA|3KLYUCHENEPOSTOYANNAYA",
  "3KLYUCHEVAYA SVETLAYA|4TIKHAYA|3MRACHNAYA|3SVETLAYA|3TIKHAYA|3TRESVETLAYA|2SLOZHITIE|3S KRYZHEM",
  "4ZAPYATOY|3ZAKRYTOE|2STATYA|3NEPOSTOYANNAYA|3S DVUMYA ZAPYATYMI|4KRYZHEM|5I ZAPYATOY|4ROGOM",
  "4ZAPYATOY|5I KRYZHEM|6PODCHASHIEM|3ZAKRYTAYA|4S ZAPYATOY|2STOPITSA|3S OCHKOM",
  "3WITH SOROCHYA NOZHKA|2STRELA DVOECHELNAYA|4KLYUCHEVAYA|3DVOECHELNOKRYZHEVAYA",
  "3DVOECHELNOPOVODNAYA|4KLYUCHEVAYA|3GROMNAYA|4WITH SINGLE ZAPYATAYA|3GROMOKRYZHEVAYA|4POVODNAYA",
  "3GROMOPOVODNAYA|4WITH DOUBLE ZAPYATAYA|5SINGLE ZAPYATAYA|3KLYUCHENEPOSTOYANNAYA",
  "3KLYUCHEPOVODNAYA|3KRYUKOVAYA|4GROMNAYA|5WITH SINGLE ZAPYATAYA|4GROMOKRYZHEVAYA|5POVODNAYA",
  "4GROMOPOVODNAYA|5WITH DOUBLE ZAPYATAYA|6SINGLE ZAPYATAYA|4POVODNAYA|4TRYASKA|3KRYZHEVAYA",
  "3MRACHNOTIKHAYA|3NEPOSTOYANNAYA|3POLUPOVODNAYA|3POVODNAYA|3PROSTAYA|3TIKHAYA PUTNAYA",
  "3TRYASOGLASNAYA|3TRYASOPOVODNAYA|3TRYASOSTRELNAYA|2VRAKHIYA KLYUCHEVAYA MRACHNAYA|4PROSTAYA",
  "4SVETLAYA|4TRESVETLAYA|3MRACHNAYA|3PROSTAYA|3SVETLAYA|3TRESVETLAYA|2ZANOZHEK|2ZAPYATAYA",
  "2ZMEYTSA|1PRIZNAK MODIFIER DIRECTION FLIP|3KRYZH|3LEVEL-2|3LEVEL-3|3ROG|0ZOMBIE|0ZWJ|0ZWNBSP",
  "0ZWNJ|0ZWSP"]

def characterNames : List String :=
  namesFromA ++ namesFromC ++ namesFromD ++ namesFromI ++ namesFromM ++ namesFromS

end Text
end Storyboard
