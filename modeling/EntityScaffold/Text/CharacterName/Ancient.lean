/-
Names of characters of scripts from U+10000 to U+143FF, many of them ancient.
-/

namespace EntityScaffold.Text.CharacterName

def ancientNames : String := "
  @10000 LINEAR_B_SYLLABLE_: B008_A B038_E B028_I B061_O B010_U B001_DA B045_DE B007_DI B014_DO
  B051_DU B057_JA B046_JE @1000D B036_JO B065_JU B077_KA B044_KE B067_KI B070_KO B081_KU B080_MA
  B013_ME B073_MI B015_MO B023_MU B006_NA B024_NE B030_NI B052_NO B055_NU B003_PA B072_PE B039_PI
  B011_PO B050_PU B016_QA B078_QE B021_QI B032_QO @10028 B060_RA B027_RE B053_RI B002_RO B026_RU
  B031_SA B009_SE B041_SI B012_SO B058_SU B059_TA B004_TE B037_TI B005_TO B069_TU B054_WA B075_WE
  B040_WI B042_WO @1003C B017_ZA B074_ZE @1003F B020_ZO B025_A2 B043_A3 B085_AU B071_DWE B090_DWO
  B048_NWA B029_PU2 B062_PTE B076_RA2 B033_RA3 B068_RO2 B066_TA2 B087_TWE B091_TWO @10050
  LINEAR_B_SYMBOL_: B018 B019 B022 B034 B047 B049 B056 B063 B064 B079 B082 B083 B086 B089 @10080
  LINEAR_B_IDEOGRAM_: B100_MAN B102_WOMAN B104_DEER B105_EQUID B105F_MARE B105M_STALLION B106F_EWE
  B106M_RAM B107F_SHE-GOAT B107M_HE-GOAT B108F_SOW B108M_BOAR B109F_COW B109M_BULL B120_WHEAT
  B121_BARLEY B122_OLIVE B123_SPICE B125_CYPERUS LINEAR_B_MONOGRAM_: B127_KAPO B128_KANAKO
  LINEAR_B_IDEOGRAM_: B130_OIL B131_WINE B132 LINEAR_B_MONOGRAM_: B133_AREPA B135_MERI
  LINEAR_B_IDEOGRAM_: B140_BRONZE B141_GOLD B142 B145_WOOL B146 B150 B151_HORN B152 B153 B154
  LINEAR_B_MONOGRAM_B156_: TURO2 LINEAR_B_IDEOGRAM_: B157 B158 B159_CLOTH B160 B161 B162_GARMENT
  B163_ARMOUR B164 B165 B166 B167 B168 B169 B170 B171 B172 B173_MONTH B174 B176_TREE B177 B178 B179
  B180 B181 B182 B183 B184 B185 B189 B190 B191_HELMET B220_FOOTSTOOL B225_BATHTUB B230_SPEAR
  B231_ARROW B232 B233_SWORD B234 B236 B240_WHEELED_CHARIOT B241_CHARIOT B242_CHARIOT_FRAME
  B243_WHEEL B245 B246 LINEAR_B_MONOGRAM_B247_: DIPTE LINEAR_B_IDEOGRAM_: B248 B249 B251 B252 B253
  B254_DART B255 B256 B257 B258 B259 LINEAR_B_IDEOGRAM_VESSEL_: B155 B200 B201 B202 B203 B204 B205
  B206 B207 B208 B209 B210 B211 B212 B213 B214 B215 B216 B217 B218 B219 B221 B222 B226 B227 B228
  B229 B250 B305 @10100 AEGEAN_WORD_SEPARATOR_: LINE DOT AEGEAN_CHECK_: MARK @10107 AEGEAN_NUMBER_:
  ONE TWO THREE FOUR FIVE SIX SEVEN EIGHT NINE TEN TWENTY THIRTY FORTY FIFTY SIXTY SEVENTY EIGHTY
  NINETY ONE_HUNDRED TWO_HUNDRED THREE_HUNDRED FOUR_HUNDRED FIVE_HUNDRED SIX_HUNDRED SEVEN_HUNDRED
  EIGHT_HUNDRED NINE_HUNDRED ONE_THOUSAND TWO_THOUSAND THREE_THOUSAND FOUR_THOUSAND FIVE_THOUSAND
  SIX_THOUSAND SEVEN_THOUSAND EIGHT_THOUSAND NINE_THOUSAND TEN_THOUSAND TWENTY_THOUSAND
  THIRTY_THOUSAND FORTY_THOUSAND FIFTY_THOUSAND SIXTY_THOUSAND SEVENTY_THOUSAND EIGHTY_THOUSAND
  NINETY_THOUSAND @10137 AEGEAN_WEIGHT_: BASE_UNIT FIRST_SUBUNIT SECOND_SUBUNIT THIRD_SUBUNIT
  FOURTH_SUBUNIT AEGEAN_: DRY_MEASURE_FIRST_SUBUNIT LIQUID_MEASURE_FIRST_SUBUNIT
  MEASURE_SECOND_SUBUNIT MEASURE_THIRD_SUBUNIT GREEK_ACROPHONIC_ATTIC_: ONE_QUARTER ONE_HALF
  ONE_DRACHMA FIVE FIFTY FIVE_HUNDRED FIVE_THOUSAND FIFTY_THOUSAND FIVE_TALENTS TEN_TALENTS
  FIFTY_TALENTS ONE_HUNDRED_TALENTS FIVE_HUNDRED_TALENTS ONE_THOUSAND_TALENTS FIVE_THOUSAND_TALENTS
  FIVE_STATERS TEN_STATERS FIFTY_STATERS ONE_HUNDRED_STATERS FIVE_HUNDRED_STATERS
  ONE_THOUSAND_STATERS TEN_THOUSAND_STATERS FIFTY_THOUSAND_STATERS TEN_MNAS GREEK_ACROPHONIC_:
  HERAEUM_ONE_PLETHRON THESPIAN_ONE HERMIONIAN_ONE EPIDAUREAN_TWO THESPIAN_TWO
  CYRENAIC_TWO_DRACHMAS EPIDAUREAN_TWO_DRACHMAS TROEZENIAN_FIVE TROEZENIAN_TEN
  TROEZENIAN_TEN_ALTERNATE_FORM HERMIONIAN_TEN MESSENIAN_TEN THESPIAN_TEN THESPIAN_THIRTY
  TROEZENIAN_FIFTY TROEZENIAN_FIFTY_ALTERNATE_FORM HERMIONIAN_FIFTY THESPIAN_FIFTY
  THESPIAN_ONE_HUNDRED THESPIAN_THREE_HUNDRED EPIDAUREAN_FIVE_HUNDRED TROEZENIAN_FIVE_HUNDRED
  THESPIAN_FIVE_HUNDRED CARYSTIAN_FIVE_HUNDRED NAXIAN_FIVE_HUNDRED THESPIAN_ONE_THOUSAND
  THESPIAN_FIVE_THOUSAND DELPHIC_FIVE_MNAS STRATIAN_FIFTY_MNAS GREEK_ONE_HALF_: SIGN
  SIGN_ALTERNATE_FORM GREEK_: TWO_THIRDS_SIGN THREE_QUARTERS_SIGN YEAR_SIGN TALENT_SIGN
  DRACHMA_SIGN OBOL_SIGN TWO_OBOLS_SIGN THREE_OBOLS_SIGN FOUR_OBOLS_SIGN FIVE_OBOLS_SIGN
  METRETES_SIGN KYATHOS_BASE_SIGN LITRA_SIGN OUNKIA_SIGN XESTES_SIGN ARTABE_SIGN AROURA_SIGN
  GRAMMA_SIGN TRYBLION_BASE_SIGN ZERO_SIGN ONE_QUARTER_SIGN SINUSOID_SIGN INDICTION_SIGN NOMISMA_:
  SIGN @10190 ROMAN_: SEXTANS_SIGN UNCIA_SIGN SEMUNCIA_SIGN SEXTULA_SIGN DIMIDIA_SEXTULA_SIGN
  SILIQUA_SIGN DENARIUS_SIGN QUINARIUS_SIGN SESTERTIUS_SIGN DUPONDIUS_SIGN AS_SIGN CENTURIAL_SIGN
  ASCIA_: SYMBOL @101A0 GREEK_SYMBOL_TAU_: RHO @101D0 PHAISTOS_DISC_SIGN_: PEDESTRIAN PLUMED_HEAD
  TATTOOED_HEAD CAPTIVE CHILD WOMAN HELMET GAUNTLET TIARA ARROW BOW SHIELD CLUB MANACLES MATTOCK
  SAW LID BOOMERANG CARPENTRY_PLANE DOLIUM COMB SLING COLUMN BEEHIVE SHIP HORN HIDE BULLS_LEG CAT
  RAM EAGLE DOVE TUNNY BEE PLANE_TREE VINE PAPYRUS ROSETTE LILY OX_BACK FLUTE GRATER STRAINER
  SMALL_AXE WAVY_BAND COMBINING_OBLIQUE_STROKE @10280 LYCIAN_LETTER_: A E B BH G D I W Z TH J K Q L
  M N MM NN U P KK R S T TT AN EN H X @102A0 CARIAN_LETTER_: A P2 D L UUU R LD A2 Q B M O D2 T SH
  SH2 S C-18 U NN X N TT2 P SS I E UUUU K K2 ND UU G G2 ST ST2 NG II C-39 TT UUU2 RR MB MB2 MB3 MB4
  LD2 E2 UUU3 @102E0 COPTIC_EPACT_THOUSANDS_: MARK COPTIC_EPACT_DIGIT_: ONE TWO THREE FOUR FIVE SIX
  SEVEN EIGHT NINE COPTIC_EPACT_NUMBER_: TEN TWENTY THIRTY FORTY FIFTY SIXTY SEVENTY EIGHTY NINETY
  ONE_HUNDRED TWO_HUNDRED THREE_HUNDRED FOUR_HUNDRED FIVE_HUNDRED SIX_HUNDRED SEVEN_HUNDRED
  EIGHT_HUNDRED NINE_HUNDRED @10300 OLD_ITALIC_LETTER_: A BE KE DE E VE ZE HE THE I KA EL EM EN ESH
  O PE SHE KU ER ES TE U EKS PHE KHE EF ERS CHE II UU ESS OLD_ITALIC_NUMERAL_: ONE FIVE TEN FIFTY
  @1032D OLD_ITALIC_LETTER_: YE NORTHERN_TSE SOUTHERN_TSE GOTHIC_LETTER_: AHSA BAIRKAN GIBA DAGS
  AIHVUS QAIRTHRA IUJA HAGL THIUTH EIS KUSMA LAGUS MANNA NAUTHS JER URUS PAIRTHRA NINETY RAIDA
  SAUIL TEIWS WINJA FAIHU IGGWS HWAIR OTHAL NINE_HUNDRED @10350 OLD_PERMIC_LETTER_: AN BUR GAI DOI
  E ZHOI DZHOI ZATA DZITA I KOKE LEI MENOE NENOE VOOI PEEI REI SII TAI U CHERY SHOOI SHCHOOI YRY
  YERU O OO EF HA TSIU VER YER YERI YAT IE YU YA IA COMBINING_OLD_PERMIC_LETTER_: AN DOI ZATA NENOE
  SII @10380 UGARITIC_LETTER_: ALPA BETA GAMLA KHA DELTA HO WO ZETA HOTA TET YOD KAF SHIN LAMDA MEM
  DHAL NUN ZU SAMKA AIN PU SADE QOPA RASHA THANNA GHAIN TO I U SSU @1039F UGARITIC_WORD_: DIVIDER
  OLD_PERSIAN_SIGN_: A I U KA KU GA GU XA CA JA JI TA TU DA DI DU THA PA BA FA NA NU MA MI MU YA VA
  VI RA RU LA SA ZA SHA SSA HA @103C8 AURAMAZDAA AURAMAZDAA-2 AURAMAZDAAHA XSHAAYATHIYA DAHYAAUSH
  DAHYAAUSH-2 BAGA BUUMISH OLD_PERSIAN_WORD_: DIVIDER OLD_PERSIAN_NUMBER_: ONE TWO TEN TWENTY
  HUNDRED @10400 DESERET_CAPITAL_LETTER_LONG_: I E A AH O OO DESERET_CAPITAL_LETTER_SHORT_: I E A
  AH O OO DESERET_CAPITAL_LETTER_: AY OW WU YEE H PEE BEE TEE DEE CHEE JEE KAY GAY EF VEE ETH THEE
  ES ZEE ESH ZHEE ER EL EM EN ENG OI EW DESERET_SMALL_LETTER_LONG_: I E A AH O OO
  DESERET_SMALL_LETTER_SHORT_: I E A AH O OO DESERET_SMALL_LETTER_: AY OW WU YEE H PEE BEE TEE DEE
  CHEE JEE KAY GAY EF VEE ETH THEE ES ZEE ESH ZHEE ER EL EM EN ENG OI EW SHAVIAN_LETTER_: PEEP TOT
  KICK FEE THIGH SO SURE CHURCH YEA HUNG BIB DEAD GAG VOW THEY ZOO MEASURE JUDGE WOE HA-HA LOLL
  MIME IF EGG ASH ADO ON WOOL OUT AH ROAR NUN EAT AGE ICE UP OAK OOZE OIL AWE ARE OR AIR ERR ARRAY
  EAR IAN YEW OSMANYA_LETTER_: ALEF BA TA JA XA KHA DEEL RA SA SHIIN DHA CAYN GA FA QAAF KAAF LAAN
  MIIN NUUN WAW HA YA A E I O U AA EE OO @104A0 OSMANYA_DIGIT_: ZERO ONE TWO THREE FOUR FIVE SIX
  SEVEN EIGHT NINE @104B0 OSAGE_CAPITAL_LETTER_: A AI AIN AH BRA CHA EHCHA E EIN HA HYA I KA EHKA
  KYA LA MA NA O OIN PA EHPA SA SHA TA EHTA TSA EHTSA TSHA DHA U WA KHA GHA ZA ZHA @104D8
  OSAGE_SMALL_LETTER_: A AI AIN AH BRA CHA EHCHA E EIN HA HYA I KA EHKA KYA LA MA NA O OIN PA EHPA
  SA SHA TA EHTA TSA EHTSA TSHA DHA U WA KHA GHA ZA ZHA @10500 ELBASAN_LETTER_: A BE CE CHE DE NDE
  DHE EI E FE GE GJE HE I JE KE LE LLE ME NE NA NJE O PE QE RE RRE SE SHE TE THE U VE XE Y ZE ZHE
  GHE GHAMMA KHE @10530 CAUCASIAN_ALBANIAN_LETTER_: ALT BET GIM DAT EB ZARL EYN ZHIL TAS CHA YOWD
  ZHA IRB SHA LAN INYA XEYN DYAN CAR JHOX KAR LYIT HEYT QAY AOR CHOY CHI CYAY MAQ QAR NOWC DZYAY
  SHAK JAYN ON TYAY FAM DZAY CHAT PEN GHEYS RAT SEYK VEYZ TIWR SHOY IWN CYAW CAYN YAYD PIWR KIW
  @1056F CAUCASIAN_ALBANIAN_CITATION_: MARK VITHKUQI_CAPITAL_LETTER_: A BBE BE CE CHE DE DHE EI E
  FE GA @1057C HA HHA I IJE JE KA LA LLA ME NE NJE O PE QA RE @1058C SE SHE TE THE U VE XE @10594 Y
  ZE @10597 VITHKUQI_SMALL_LETTER_: A BBE BE CE CHE DE DHE EI E FE GA @105A3 HA HHA I IJE JE KA LA
  LLA ME NE NJE O PE QA RE @105B3 SE SHE TE THE U VE XE @105BB Y ZE @10600 LINEAR_A_SIGN_: AB001
  AB002 AB003 AB004 AB005 AB006 AB007 AB008 AB009 AB010 AB011 AB013 AB016 AB017 AB020 AB021 AB021F
  AB021M AB022 AB022F AB022M AB023 AB023M AB024 AB026 AB027 AB028 A028B AB029 AB030 AB031 AB034
  AB037 AB038 AB039 AB040 AB041 AB044 AB045 AB046 AB047 AB048 AB049 AB050 AB051 AB053 AB054 AB055
  AB056 AB057 AB058 AB059 AB060 AB061 AB065 AB066 AB067 AB069 AB070 AB073 AB074 AB076 AB077 AB078
  AB079 AB080 AB081 AB082 AB085 AB086 AB087 A100-102 AB118 AB120 A120B AB122 AB123 AB131A AB131B
  A131C AB164 AB171 AB180 AB188 AB191 A301 A302 A303 A304 A305 A306 A307 A308 A309A A309B A309C
  A310 A311 A312 A313A A313B A313C A314 A315 A316 A317 A318 A319 A320 A321 A322 A323 A324 A325 A326
  A327 A328 A329 A330 A331 A332 A333 A334 A335 A336 A337 A338 A339 A340 A341 A342 A343 A344 A345
  A346 A347 A348 A349 A350 A351 A352 A353 A354 A355 A356 A357 A358 A359 A360 A361 A362 A363 A364
  A365 A366 A367 A368 A369 A370 A371 A400-VAS A401-VAS A402-VAS A403-VAS A404-VAS A405-VAS A406-VAS
  A407-VAS A408-VAS A409-VAS A410-VAS A411-VAS A412-VAS A413-VAS A414-VAS A415-VAS A416-VAS
  A417-VAS A418-VAS A501 A502 A503 A504 A505 A506 A508 A509 A510 A511 A512 A513 A515 A516 A520 A521
  A523 A524 A525 A526 A527 A528 A529 A530 A531 A532 A534 A535 A536 A537 A538 A539 A540 A541 A542
  A545 A547 A548 A549 A550 A551 A552 A553 A554 A555 A556 A557 A559 A563 A564 A565 A566 A568 A569
  A570 A571 A572 A573 A574 A575 A576 A577 A578 A579 A580 A581 A582 A583 A584 A585 A586 A587 A588
  A589 A591 A592 A594 A595 A596 A598 A600 A601 A602 A603 A604 A606 A608 A609 A610 A611 A612 A613
  A614 A615 A616 A617 A618 A619 A620 A621 A622 A623 A624 A626 A627 A628 A629 A634 A637 A638 A640
  A642 A643 A644 A645 A646 A648 A649 A651 A652 A653 A654 A655 A656 A657 A658 A659 A660 A661 A662
  A663 A664 @10740 A701_A A702_B A703_D A704_E A705_F A706_H A707_J A708_K A709_L A709-2_L2
  A709-3_L3 A709-4_L4 A709-6_L6 A710_W A711_X A712_Y A713_OMEGA A714_ABB A715_BB A717_DD A726_EYYY
  A732_JE @10760 A800 A801 A802 A803 A804 A805 A806 A807 @10780 MODIFIER_LETTER_: SMALL_CAPITAL_AA
  SUPERSCRIPT_TRIANGULAR_COLON SUPERSCRIPT_HALF_TRIANGULAR_COLON SMALL_AE SMALL_CAPITAL_B
  SMALL_B_WITH_HOOK @10787 MODIFIER_LETTER_SMALL_: DZ_DIGRAPH DZ_DIGRAPH_WITH_RETROFLEX_HOOK
  DZ_DIGRAPH_WITH_CURL DEZH_DIGRAPH D_WITH_TAIL D_WITH_HOOK D_WITH_HOOK_AND_TAIL REVERSED_E
  CLOSED_REVERSED_OPEN_E FENG_DIGRAPH RAMS_HORN CAPITAL_G G_WITH_HOOK CAPITAL_G_WITH_HOOK
  H_WITH_STROKE CAPITAL_H HENG_WITH_HOOK DOTLESS_J_WITH_STROKE_AND_HOOK LS_DIGRAPH LZ_DIGRAPH
  L_WITH_BELT CAPITAL_L_WITH_BELT L_WITH_RETROFLEX_HOOK_AND_BELT LEZH LEZH_WITH_RETROFLEX_HOOK
  TURNED_Y TURNED_Y_WITH_BELT O_WITH_STROKE CAPITAL_OE CLOSED_OMEGA Q TURNED_R_WITH_LONG_LEG
  TURNED_R_WITH_LONG_LEG_AND_RETROFLEX_HOOK R_WITH_TAIL R_WITH_FISHHOOK CAPITAL_R
  TC_DIGRAPH_WITH_CURL TS_DIGRAPH TS_DIGRAPH_WITH_RETROFLEX_HOOK TESH_DIGRAPH T_WITH_RETROFLEX_HOOK
  V_WITH_RIGHT_HOOK @107B2 MODIFIER_LETTER_: SMALL_CAPITAL_Y GLOTTAL_STOP_WITH_STROKE
  REVERSED_GLOTTAL_STOP_WITH_STROKE BILABIAL_CLICK DENTAL_CLICK LATERAL_CLICK ALVEOLAR_CLICK
  RETROFLEX_CLICK_WITH_RETROFLEX_HOOK SMALL_S_WITH_CURL @10800 CYPRIOT_SYLLABLE_: A E I O U JA
  @10808 JO @1080A KA KE KI KO KU LA LE LI LO LU MA ME MI MO MU NA NE NI NO NU PA PE PI PO PU RA RE
  RI RO RU SA SE SI SO SU TA TE TI TO TU WA WE WI WO @10837 XA XE @1083C ZA @1083F ZO
  IMPERIAL_ARAMAIC_LETTER_: ALEPH BETH GIMEL DALETH HE WAW ZAYIN HETH TETH YODH KAPH LAMEDH MEM NUN
  SAMEKH AYIN PE SADHE QOPH RESH SHIN TAW @10857 IMPERIAL_ARAMAIC_SECTION_: SIGN
  IMPERIAL_ARAMAIC_NUMBER_: ONE TWO THREE TEN TWENTY ONE_HUNDRED ONE_THOUSAND TEN_THOUSAND
  PALMYRENE_LETTER_: ALEPH BETH GIMEL DALETH HE WAW ZAYIN HETH TETH YODH KAPH LAMEDH MEM FINAL_NUN
  NUN SAMEKH AYIN PE SADHE QOPH RESH SHIN TAW PALMYRENE_: LEFT-POINTING_FLEURON
  RIGHT-POINTING_FLEURON PALMYRENE_NUMBER_: ONE TWO THREE FOUR FIVE TEN TWENTY NABATAEAN_LETTER_:
  FINAL_ALEPH ALEPH FINAL_BETH BETH GIMEL DALETH FINAL_HE HE WAW ZAYIN HETH TETH FINAL_YODH YODH
  FINAL_KAPH KAPH FINAL_LAMEDH LAMEDH FINAL_MEM MEM FINAL_NUN NUN SAMEKH AYIN PE SADHE QOPH RESH
  FINAL_SHIN SHIN TAW @108A7 NABATAEAN_NUMBER_: ONE TWO THREE FOUR NABATAEAN_CRUCIFORM_NUMBER_:
  FOUR NABATAEAN_NUMBER_: FIVE TEN TWENTY ONE_HUNDRED @108E0 HATRAN_LETTER_: ALEPH BETH GIMEL
  DALETH-RESH HE WAW ZAYN HETH TETH YODH KAPH LAMEDH MEM NUN SAMEKH AYN PE SADHE QOPH @108F4 SHIN
  TAW @108FB HATRAN_NUMBER_: ONE FIVE TEN TWENTY ONE_HUNDRED PHOENICIAN_LETTER_: ALF BET GAML DELT
  HE WAU ZAI HET TET YOD KAF LAMD MEM NUN SEMK AIN PE SADE QOF ROSH SHIN TAU PHOENICIAN_NUMBER_:
  ONE TEN TWENTY ONE_HUNDRED TWO THREE @1091F PHOENICIAN_WORD_: SEPARATOR LYDIAN_LETTER_: A B G D E
  V I Y K L M N O R SS T U F Q S TT AN EN LY NN C @1093F LYDIAN_TRIANGULAR_: MARK @10980
  MEROITIC_HIEROGLYPHIC_LETTER_: A E I O YA WA BA BA-2 PA MA NA NA-2 NE NE-2 RA RA-2 LA KHA HHA SA
  SA-2 SE KA QA TA TA-2 TE TE-2 TO DA MEROITIC_HIEROGLYPHIC_SYMBOL_: VIDJ VIDJ-2
  MEROITIC_CURSIVE_LETTER_: A E I O YA WA BA PA MA NA NE RA LA KHA HHA SA ARCHAIC_SA SE KA QA TA TE
  TO DA @109BC MEROITIC_CURSIVE_: FRACTION_ELEVEN_TWELFTHS FRACTION_ONE_HALF LOGOGRAM_RMT
  LOGOGRAM_IMN MEROITIC_CURSIVE_NUMBER_: ONE TWO THREE FOUR FIVE SIX SEVEN EIGHT NINE TEN TWENTY
  THIRTY FORTY FIFTY SIXTY SEVENTY @109D2 ONE_HUNDRED TWO_HUNDRED THREE_HUNDRED FOUR_HUNDRED
  FIVE_HUNDRED SIX_HUNDRED SEVEN_HUNDRED EIGHT_HUNDRED NINE_HUNDRED ONE_THOUSAND TWO_THOUSAND
  THREE_THOUSAND FOUR_THOUSAND FIVE_THOUSAND SIX_THOUSAND SEVEN_THOUSAND EIGHT_THOUSAND
  NINE_THOUSAND TEN_THOUSAND TWENTY_THOUSAND THIRTY_THOUSAND FORTY_THOUSAND FIFTY_THOUSAND
  SIXTY_THOUSAND SEVENTY_THOUSAND EIGHTY_THOUSAND NINETY_THOUSAND ONE_HUNDRED_THOUSAND
  TWO_HUNDRED_THOUSAND THREE_HUNDRED_THOUSAND FOUR_HUNDRED_THOUSAND FIVE_HUNDRED_THOUSAND
  SIX_HUNDRED_THOUSAND SEVEN_HUNDRED_THOUSAND EIGHT_HUNDRED_THOUSAND NINE_HUNDRED_THOUSAND
  MEROITIC_CURSIVE_FRACTION_: ONE_TWELFTH TWO_TWELFTHS THREE_TWELFTHS FOUR_TWELFTHS FIVE_TWELFTHS
  SIX_TWELFTHS SEVEN_TWELFTHS EIGHT_TWELFTHS NINE_TWELFTHS TEN_TWELFTHS KHAROSHTHI_LETTER_: A
  KHAROSHTHI_VOWEL_SIGN_: I U VOCALIC_R @10A05 E O @10A0C KHAROSHTHI_: VOWEL_LENGTH_MARK
  SIGN_DOUBLE_RING_BELOW SIGN_ANUSVARA SIGN_VISARGA KHAROSHTHI_LETTER_: KA KHA GA GHA @10A15 CA CHA
  JA @10A19 NYA TTA TTHA DDA DDHA NNA TA THA DA DHA NA PA PHA BA BHA MA YA RA LA VA SHA SSA SA ZA
  HA KKA TTTHA TTTA VHA @10A38 KHAROSHTHI_SIGN_: BAR_ABOVE CAUDA DOT_BELOW @10A3F KHAROSHTHI_:
  VIRAMA DIGIT_ONE DIGIT_TWO DIGIT_THREE DIGIT_FOUR NUMBER_TEN NUMBER_TWENTY NUMBER_ONE_HUNDRED
  NUMBER_ONE_THOUSAND FRACTION_ONE_HALF @10A50 KHAROSHTHI_PUNCTUATION_: DOT SMALL_CIRCLE CIRCLE
  CRESCENT_BAR MANGALAM LOTUS DANDA DOUBLE_DANDA LINES @10A60 OLD_SOUTH_ARABIAN_LETTER_: HE LAMEDH
  HETH MEM QOPH WAW SHIN RESH BETH TAW SAT KAPH NUN KHETH SADHE SAMEKH FE ALEF AYN DHADHE GIMEL
  DALETH GHAYN TETH ZAYN DHALETH YODH THAW THETH OLD_SOUTH_ARABIAN_: NUMBER_ONE NUMBER_FIFTY
  NUMERIC_INDICATOR OLD_NORTH_ARABIAN_LETTER_: HEH LAM HAH MEEM QAF WAW ES-2 REH BEH TEH ES-1 KAF
  NOON KHAH SAD ES-3 FEH ALEF AIN DAD GEEM DAL GHAIN TAH ZAIN THAL YEH THEH ZAH
  OLD_NORTH_ARABIAN_NUMBER_: ONE TEN TWENTY @10AC0 MANICHAEAN_LETTER_: ALEPH BETH BHETH GIMEL
  GHIMEL DALETH HE WAW MANICHAEAN_SIGN_: UD MANICHAEAN_LETTER_: ZAYIN ZHAYIN JAYIN JHAYIN HETH TETH
  YODH KAPH XAPH KHAPH LAMEDH DHAMEDH THAMEDH MEM NUN SAMEKH AYIN AAYIN PE FE SADHE QOPH XOPH QHOPH
  RESH SHIN SSHIN TAW MANICHAEAN_ABBREVIATION_MARK_: ABOVE BELOW @10AEB MANICHAEAN_NUMBER_: ONE
  FIVE TEN TWENTY ONE_HUNDRED MANICHAEAN_PUNCTUATION_: STAR FLEURON DOUBLE_DOT_WITHIN_DOT
  DOT_WITHIN_DOT DOT TWO_DOTS LINE_FILLER @10B00 AVESTAN_LETTER_: A AA AO AAO AN AAN AE AEE E EE O
  OO I II U UU KE XE XYE XVE GE GGE GHE CE JE TE THE DE DHE TTE PE FE BE BHE NGE NGYE NGVE NE NYE
  NNE ME HME YYE YE VE RE LE SE ZE SHE ZHE SHYE SSHE HE @10B39 : AVESTAN_ABBREVIATION_MARK
  TINY_TWO_DOTS_OVER_ONE_DOT_PUNCTUATION SMALL_TWO_DOTS_OVER_ONE_DOT_PUNCTUATION LARGE_:
  TWO_DOTS_OVER_ONE_DOT_PUNCTUATION ONE_DOT_OVER_TWO_DOTS_PUNCTUATION
  TWO_RINGS_OVER_ONE_RING_PUNCTUATION ONE_RING_OVER_TWO_RINGS_PUNCTUATION
  INSCRIPTIONAL_PARTHIAN_LETTER_: ALEPH BETH GIMEL DALETH HE WAW ZAYIN HETH TETH YODH KAPH LAMEDH
  MEM NUN SAMEKH AYIN PE SADHE QOPH RESH SHIN TAW @10B58 INSCRIPTIONAL_PARTHIAN_NUMBER_: ONE TWO
  THREE FOUR TEN TWENTY ONE_HUNDRED ONE_THOUSAND INSCRIPTIONAL_PAHLAVI_LETTER_: ALEPH BETH GIMEL
  DALETH HE WAW-AYIN-RESH ZAYIN HETH TETH YODH KAPH LAMEDH MEM-QOPH NUN SAMEKH PE SADHE SHIN TAW
  @10B78 INSCRIPTIONAL_PAHLAVI_NUMBER_: ONE TWO THREE FOUR TEN TWENTY ONE_HUNDRED ONE_THOUSAND
  PSALTER_PAHLAVI_LETTER_: ALEPH BETH GIMEL DALETH HE WAW-AYIN-RESH ZAYIN HETH YODH KAPH LAMEDH
  MEM-QOPH NUN SAMEKH PE SADHE SHIN TAW @10B99 PSALTER_PAHLAVI_: SECTION_MARK TURNED_SECTION_MARK
  FOUR_DOTS_WITH_CROSS FOUR_DOTS_WITH_DOT @10BA9 PSALTER_PAHLAVI_NUMBER_: ONE TWO THREE FOUR TEN
  TWENTY ONE_HUNDRED @10C00 OLD_TURKIC_LETTER_: ORKHON_A YENISEI_A YENISEI_AE ORKHON_I YENISEI_I
  YENISEI_E ORKHON_O ORKHON_OE YENISEI_OE ORKHON_AB YENISEI_AB ORKHON_AEB YENISEI_AEB ORKHON_AG
  YENISEI_AG ORKHON_AEG YENISEI_AEG ORKHON_AD YENISEI_AD ORKHON_AED ORKHON_EZ YENISEI_EZ ORKHON_AY
  YENISEI_AY ORKHON_AEY YENISEI_AEY ORKHON_AEK YENISEI_AEK ORKHON_OEK YENISEI_OEK ORKHON_AL
  YENISEI_AL ORKHON_AEL ORKHON_ELT ORKHON_EM ORKHON_AN ORKHON_AEN YENISEI_AEN ORKHON_ENT
  YENISEI_ENT ORKHON_ENC YENISEI_ENC ORKHON_ENY YENISEI_ENY YENISEI_ANG ORKHON_ENG YENISEI_AENG
  ORKHON_EP ORKHON_OP ORKHON_IC ORKHON_EC YENISEI_EC ORKHON_AQ YENISEI_AQ ORKHON_IQ YENISEI_IQ
  ORKHON_OQ YENISEI_OQ ORKHON_AR YENISEI_AR ORKHON_AER ORKHON_AS ORKHON_AES ORKHON_ASH YENISEI_ASH
  ORKHON_ESH YENISEI_ESH ORKHON_AT YENISEI_AT ORKHON_AET YENISEI_AET ORKHON_OT ORKHON_BASH @10C80
  OLD_HUNGARIAN_CAPITAL_LETTER_: A AA EB AMB EC ENC ECS ED AND E CLOSE_E EE EF EG EGY EH I II EJ EK
  AK UNK EL ELY EM EN ENY O OO NIKOLSBURG_OE RUDIMENTA_OE OEE EP EMP ER SHORT_ER ES ESZ ET ENT ETY
  ECH U UU NIKOLSBURG_UE RUDIMENTA_UE EV EZ EZS ENT-SHAPED_SIGN US @10CC0
  OLD_HUNGARIAN_SMALL_LETTER_: A AA EB AMB EC ENC ECS ED AND E CLOSE_E EE EF EG EGY EH I II EJ EK
  AK UNK EL ELY EM EN ENY O OO NIKOLSBURG_OE RUDIMENTA_OE OEE EP EMP ER SHORT_ER ES ESZ ET ENT ETY
  ECH U UU NIKOLSBURG_UE RUDIMENTA_UE EV EZ EZS ENT-SHAPED_SIGN US @10CFA OLD_HUNGARIAN_NUMBER_:
  ONE FIVE TEN FIFTY ONE_HUNDRED ONE_THOUSAND HANIFI_ROHINGYA_LETTER_: A BA PA TA TTA JA CA HA KHA
  FA DA DDA RA RRA ZA SA SHA KA GA LA MA NA WA KINNA_WA YA KINNA_YA NGA NYA VA
  HANIFI_ROHINGYA_VOWEL_: A I U E O HANIFI_ROHINGYA_MARK_: SAKIN NA_KHONNA HANIFI_ROHINGYA_SIGN_:
  HARBAHAY TAHALA TANA TASSI @10D30 HANIFI_ROHINGYA_DIGIT_: ZERO ONE TWO THREE FOUR FIVE SIX SEVEN
  EIGHT NINE @10E60 RUMI_DIGIT_: ONE TWO THREE FOUR FIVE SIX SEVEN EIGHT NINE RUMI_NUMBER_: TEN
  TWENTY THIRTY FORTY FIFTY SIXTY SEVENTY EIGHTY NINETY ONE_HUNDRED TWO_HUNDRED THREE_HUNDRED
  FOUR_HUNDRED FIVE_HUNDRED SIX_HUNDRED SEVEN_HUNDRED EIGHT_HUNDRED NINE_HUNDRED RUMI_FRACTION_:
  ONE_HALF ONE_QUARTER ONE_THIRD TWO_THIRDS @10E80 YEZIDI_LETTER_: ELIF BE PE PHE THE SE CIM CHIM
  CHHIM HHA XA DAL ZAL RA RHA ZA JA SIN SHIN SAD DAD TA ZE EYN XHEYN FA VA VA_ALTERNATE_FORM QAF
  KAF KHAF GAF LAM MIM NUN UM WAW OW EW HAY YOT ET @10EAB YEZIDI_COMBINING_: HAMZA_MARK MADDA_MARK
  YEZIDI_HYPHENATION_: MARK @10EB0 YEZIDI_LETTER_: LAM_WITH_DOT_ABOVE YOT_WITH_CIRCUMFLEX_ABOVE
  @10F00 OLD_SOGDIAN_LETTER_: ALEPH FINAL_ALEPH BETH FINAL_BETH GIMEL HE FINAL_HE WAW ZAYIN HETH
  YODH KAPH LAMEDH MEM NUN FINAL_NUN FINAL_NUN_WITH_VERTICAL_TAIL SAMEKH AYIN ALTERNATE_AYIN PE
  SADHE FINAL_SADHE FINAL_SADHE_WITH_VERTICAL_TAIL RESH-AYIN-DALETH SHIN TAW FINAL_TAW
  FINAL_TAW_WITH_VERTICAL_TAIL OLD_SOGDIAN_NUMBER_: ONE TWO THREE FOUR FIVE TEN TWENTY THIRTY
  ONE_HUNDRED OLD_SOGDIAN_: FRACTION_ONE_HALF LIGATURE_AYIN-DALETH @10F30 SOGDIAN_LETTER_: ALEPH
  BETH GIMEL HE WAW ZAYIN HETH YODH KAPH LAMEDH MEM NUN SAMEKH AYIN PE SADHE RESH-AYIN SHIN TAW
  FETH LESH SOGDIAN_INDEPENDENT_: SHIN SOGDIAN_COMBINING_: DOT_BELOW TWO_DOTS_BELOW DOT_ABOVE
  TWO_DOTS_ABOVE CURVE_ABOVE CURVE_BELOW HOOK_ABOVE HOOK_BELOW LONG_HOOK_BELOW RESH_BELOW
  STROKE_BELOW SOGDIAN_NUMBER_: ONE TEN TWENTY ONE_HUNDRED SOGDIAN_PUNCTUATION_: TWO_VERTICAL_BARS
  TWO_VERTICAL_BARS_WITH_DOTS CIRCLE_WITH_DOT TWO_CIRCLES_WITH_DOTS HALF_CIRCLE_WITH_DOT @10F70
  OLD_UYGHUR_LETTER_: ALEPH BETH GIMEL-HETH WAW ZAYIN FINAL_HETH YODH KAPH LAMEDH MEM NUN SAMEKH PE
  SADHE RESH SHIN TAW LESH OLD_UYGHUR_COMBINING_: DOT_ABOVE DOT_BELOW TWO_DOTS_ABOVE TWO_DOTS_BELOW
  OLD_UYGHUR_PUNCTUATION_: BAR TWO_BARS TWO_DOTS FOUR_DOTS @10FB0 CHORASMIAN_LETTER_: ALEPH
  SMALL_ALEPH BETH GIMEL DALETH HE WAW CURLED_WAW ZAYIN HETH YODH KAPH LAMEDH MEM NUN SAMEKH AYIN
  PE RESH SHIN TAW CHORASMIAN_NUMBER_: ONE TWO THREE FOUR TEN TWENTY ONE_HUNDRED @10FE0
  ELYMAIC_LETTER_: ALEPH BETH GIMEL DALETH HE WAW ZAYIN HETH TETH YODH KAPH LAMEDH MEM NUN SAMEKH
  AYIN PE SADHE QOPH RESH SHIN TAW ELYMAIC_LIGATURE_ZAYIN-: YODH @11000 BRAHMI_SIGN_: CANDRABINDU
  ANUSVARA VISARGA JIHVAMULIYA UPADHMANIYA BRAHMI_LETTER_: A AA I II U UU VOCALIC_R VOCALIC_RR
  VOCALIC_L VOCALIC_LL E AI O AU KA KHA GA GHA NGA CA CHA JA JHA NYA TTA TTHA DDA DDHA NNA TA THA
  DA DHA NA PA PHA BA BHA MA YA RA LA VA SHA SSA SA HA LLA BRAHMI_LETTER_OLD_TAMIL_: LLLA RRA NNNA
  BRAHMI_VOWEL_SIGN_: AA BHATTIPROLU_AA I II U UU VOCALIC_R VOCALIC_RR VOCALIC_L VOCALIC_LL E AI O
  AU BRAHMI_: VIRAMA DANDA DOUBLE_DANDA BRAHMI_PUNCTUATION_: DOT DOUBLE_DOT LINE CRESCENT_BAR LOTUS
  @11052 BRAHMI_NUMBER_: ONE TWO THREE FOUR FIVE SIX SEVEN EIGHT NINE TEN TWENTY THIRTY FORTY FIFTY
  SIXTY SEVENTY EIGHTY NINETY ONE_HUNDRED ONE_THOUSAND BRAHMI_DIGIT_: ZERO ONE TWO THREE FOUR FIVE
  SIX SEVEN EIGHT NINE BRAHMI_SIGN_OLD_TAMIL_: VIRAMA BRAHMI_LETTER_OLD_TAMIL_SHORT_: E O
  BRAHMI_VOWEL_SIGN_OLD_TAMIL_SHORT_: E O BRAHMI_LETTER_OLD_TAMIL_: LLA @1107F BRAHMI_NUMBER_:
  JOINER KAITHI_SIGN_: CANDRABINDU ANUSVARA VISARGA KAITHI_LETTER_: A AA I II U UU E AI O AU KA KHA
  GA GHA NGA CA CHA JA JHA NYA TTA TTHA DDA DDDHA DDHA RHA NNA TA THA DA DHA NA PA PHA BA BHA MA YA
  RA LA VA SHA SSA SA HA KAITHI_VOWEL_SIGN_: AA I II U UU E AI O AU KAITHI_: SIGN_VIRAMA SIGN_NUKTA
  ABBREVIATION_SIGN ENUMERATION_SIGN NUMBER_SIGN SECTION_MARK DOUBLE_SECTION_MARK DANDA
  DOUBLE_DANDA VOWEL_SIGN_VOCALIC_R @110CD KAITHI_NUMBER_SIGN_: ABOVE @110D0 SORA_SOMPENG_LETTER_:
  SAH TAH BAH CAH DAH GAH MAH NGAH LAH NAH VAH PAH YAH RAH HAH KAH JAH NYAH AH EEH IH UH OH EH MAE
  @110F0 SORA_SOMPENG_DIGIT_: ZERO ONE TWO THREE FOUR FIVE SIX SEVEN EIGHT NINE @11100
  CHAKMA_SIGN_: CANDRABINDU ANUSVARA VISARGA CHAKMA_LETTER_: AA I U E KAA KHAA GAA GHAA NGAA CAA
  CHAA JAA JHAA NYAA TTAA TTHAA DDAA DDHAA NNAA TAA THAA DAA DHAA NAA PAA PHAA BAA BHAA MAA YYAA
  YAA RAA LAA WAA SAA HAA CHAKMA_VOWEL_SIGN_: A I II U UU E AI O AU OI CHAKMA_: O_MARK AU_MARK
  VIRAMA MAAYYAA @11136 CHAKMA_DIGIT_: ZERO ONE TWO THREE FOUR FIVE SIX SEVEN EIGHT NINE CHAKMA_:
  SECTION_MARK DANDA DOUBLE_DANDA QUESTION_MARK LETTER_LHAA VOWEL_SIGN_AA VOWEL_SIGN_EI LETTER_VAA
  @11150 MAHAJANI_LETTER_: A I U E O KA KHA GA GHA CA CHA JA JHA NYA TTA TTHA DDA DDHA NNA TA THA
  DA DHA NA PA PHA BA BHA MA RA LA VA SA HA RRA MAHAJANI_: SIGN_NUKTA ABBREVIATION_SIGN
  SECTION_MARK LIGATURE_SHRI @11180 SHARADA_SIGN_: CANDRABINDU ANUSVARA VISARGA SHARADA_LETTER_: A
  AA I II U UU VOCALIC_R VOCALIC_RR VOCALIC_L VOCALIC_LL E AI O AU KA KHA GA GHA NGA CA CHA JA JHA
  NYA TTA TTHA DDA DDHA NNA TA THA DA DHA NA PA PHA BA BHA MA YA RA LA LLA VA SHA SSA SA HA
  SHARADA_VOWEL_SIGN_: AA I II U UU VOCALIC_R VOCALIC_RR VOCALIC_L VOCALIC_LL E AI O AU
  SHARADA_SIGN_: VIRAMA AVAGRAHA JIHVAMULIYA UPADHMANIYA SHARADA_: OM DANDA DOUBLE_DANDA
  ABBREVIATION_SIGN SEPARATOR SANDHI_MARK SIGN_NUKTA VOWEL_MODIFIER_MARK EXTRA_SHORT_VOWEL_MARK
  SUTRA_MARK VOWEL_SIGN_PRISHTHAMATRA_E SIGN_INVERTED_CANDRABINDU SHARADA_DIGIT_: ZERO ONE TWO
  THREE FOUR FIVE SIX SEVEN EIGHT NINE SHARADA_: EKAM SIGN_SIDDHAM HEADSTROKE CONTINUATION_SIGN
  SHARADA_SECTION_MARK-: 1 2 @111E1 SINHALA_ARCHAIC_DIGIT_: ONE TWO THREE FOUR FIVE SIX SEVEN EIGHT
  NINE SINHALA_ARCHAIC_NUMBER_: TEN TWENTY THIRTY FORTY FIFTY SIXTY SEVENTY EIGHTY NINETY
  ONE_HUNDRED ONE_THOUSAND @11200 KHOJKI_LETTER_: A AA I U E AI O AU KA KHA GA GGA GHA NGA CA CHA
  JA JJA @11213 NYA TTA TTHA DDA DDHA NNA TA THA DA DDDA DHA NA PA PHA BA BBA BHA MA YA RA LA VA SA
  HA LLA KHOJKI_VOWEL_SIGN_: AA I II U E AI O AU KHOJKI_SIGN_: ANUSVARA VIRAMA NUKTA SHADDA
  KHOJKI_: DANDA DOUBLE_DANDA WORD_SEPARATOR SECTION_MARK DOUBLE_SECTION_MARK ABBREVIATION_SIGN
  SIGN_SUKUN @11280 MULTANI_LETTER_: A I U E KA KHA GA @11288 GHA @1128A CA CHA JA JJA @1128F NYA
  TTA TTHA DDA DDDA DDHA NNA TA THA DA DHA NA PA PHA BA @1129F BHA MA YA RA LA VA SA HA RRA RHA
  MULTANI_SECTION_: MARK @112B0 KHUDAWADI_LETTER_: A AA I II U UU E AI O AU KA KHA GA GGA GHA NGA
  CA CHA JA JJA JHA NYA TTA TTHA DDA DDDA RRA DDHA NNA TA THA DA DHA NA PA PHA BA BBA BHA MA YA RA
  LA VA SHA SA HA KHUDAWADI_SIGN_: ANUSVARA KHUDAWADI_VOWEL_SIGN_: AA I II U UU E AI O AU
  KHUDAWADI_SIGN_: NUKTA VIRAMA @112F0 KHUDAWADI_DIGIT_: ZERO ONE TWO THREE FOUR FIVE SIX SEVEN
  EIGHT NINE @11300 GRANTHA_SIGN_: COMBINING_ANUSVARA_ABOVE CANDRABINDU ANUSVARA VISARGA @11305
  GRANTHA_LETTER_: A AA I II U UU VOCALIC_R VOCALIC_L @1130F EE AI @11313 OO AU KA KHA GA GHA NGA
  CA CHA JA JHA NYA TTA TTHA DDA DDHA NNA TA THA DA DHA NA @1132A PA PHA BA BHA MA YA RA @11332 LA
  LLA @11335 VA SHA SSA SA HA @1133B COMBINING_BINDU_: BELOW GRANTHA_SIGN_: NUKTA AVAGRAHA
  GRANTHA_VOWEL_SIGN_: AA I II U UU VOCALIC_R VOCALIC_RR @11347 EE AI @1134B OO AU GRANTHA_SIGN_:
  VIRAMA @11350 GRANTHA_: OM @11357 GRANTHA_AU_LENGTH_: MARK @1135D GRANTHA_SIGN_: PLUTA
  GRANTHA_LETTER_: VEDIC_ANUSVARA VEDIC_DOUBLE_ANUSVARA VOCALIC_RR VOCALIC_LL
  GRANTHA_VOWEL_SIGN_VOCALIC_: L LL @11366 COMBINING_GRANTHA_DIGIT_: ZERO ONE TWO THREE FOUR FIVE
  SIX @11370 COMBINING_GRANTHA_LETTER_: A KA NA VI PA @11400 NEWA_LETTER_: A AA I II U UU VOCALIC_R
  VOCALIC_RR VOCALIC_L VOCALIC_LL E AI O AU KA KHA GA GHA NGA NGHA CA CHA JA JHA NYA NYHA TTA TTHA
  DDA DDHA NNA TA THA DA DHA NA NHA PA PHA BA BHA MA MHA YA RA RHA LA LHA WA SHA SSA SA HA
  NEWA_VOWEL_SIGN_: AA I II U UU VOCALIC_R VOCALIC_RR VOCALIC_L VOCALIC_LL E AI O AU NEWA_SIGN_:
  VIRAMA CANDRABINDU ANUSVARA VISARGA NUKTA AVAGRAHA FINAL_ANUSVARA NEWA_: OM SIDDHI DANDA
  DOUBLE_DANDA COMMA GAP_FILLER ABBREVIATION_SIGN NEWA_DIGIT_: ZERO ONE TWO THREE FOUR FIVE SIX
  SEVEN EIGHT NINE NEWA_: DOUBLE_COMMA PLACEHOLDER_MARK @1145D INSERTION_SIGN SANDHI_MARK
  LETTER_VEDIC_ANUSVARA SIGN_JIHVAMULIYA SIGN_UPADHMANIYA @11480 TIRHUTA_: ANJI TIRHUTA_LETTER_: A
  AA I II U UU VOCALIC_R VOCALIC_RR VOCALIC_L VOCALIC_LL E AI O AU KA KHA GA GHA NGA CA CHA JA JHA
  NYA TTA TTHA DDA DDHA NNA TA THA DA DHA NA PA PHA BA BHA MA YA RA LA VA SHA SSA SA HA
  TIRHUTA_VOWEL_SIGN_: AA I II U UU VOCALIC_R VOCALIC_RR VOCALIC_L VOCALIC_LL E SHORT_E AI O
  SHORT_O AU TIRHUTA_SIGN_: CANDRABINDU ANUSVARA VISARGA VIRAMA NUKTA AVAGRAHA TIRHUTA_: GVANG
  ABBREVIATION_SIGN OM @114D0 TIRHUTA_DIGIT_: ZERO ONE TWO THREE FOUR FIVE SIX SEVEN EIGHT NINE
  @11580 SIDDHAM_LETTER_: A AA I II U UU VOCALIC_R VOCALIC_RR VOCALIC_L VOCALIC_LL E AI O AU KA KHA
  GA GHA NGA CA CHA JA JHA NYA TTA TTHA DDA DDHA NNA TA THA DA DHA NA PA PHA BA BHA MA YA RA LA VA
  SHA SSA SA HA SIDDHAM_VOWEL_SIGN_: AA I II U UU VOCALIC_R VOCALIC_RR @115B8 E AI O AU
  SIDDHAM_SIGN_: CANDRABINDU ANUSVARA VISARGA VIRAMA NUKTA SIDDHAM SIDDHAM_: DANDA DOUBLE_DANDA
  SEPARATOR_DOT SEPARATOR_BAR SIDDHAM_REPETITION_MARK-: 1 2 3 SIDDHAM_END_OF_TEXT_: MARK
  SIDDHAM_SECTION_MARK_WITH_TRIDENT_AND_: U-SHAPED_ORNAMENTS DOTTED_CRESCENTS
  SIDDHAM_SECTION_MARK_WITH_RAYS_AND_DOTTED_: CRESCENTS DOUBLE_CRESCENTS TRIPLE_CRESCENTS
  SIDDHAM_SECTION_MARK_DOUBLE_: RING RING_WITH_RAYS SIDDHAM_SECTION_MARK_WITH_: DOUBLE_CRESCENTS
  TRIPLE_CRESCENTS QUADRUPLE_CRESCENTS SEPTUPLE_CRESCENTS CIRCLES_AND_RAYS
  CIRCLES_AND_TWO_ENCLOSURES CIRCLES_AND_FOUR_ENCLOSURES SIDDHAM_LETTER_: THREE-CIRCLE_ALTERNATE_I
  TWO-CIRCLE_ALTERNATE_I TWO-CIRCLE_ALTERNATE_II ALTERNATE_U SIDDHAM_VOWEL_SIGN_ALTERNATE_: U UU
  @11600 MODI_LETTER_: A AA I II U UU VOCALIC_R VOCALIC_RR VOCALIC_L VOCALIC_LL E AI O AU KA KHA GA
  GHA NGA CA CHA JA JHA NYA TTA TTHA DDA DDHA NNA TA THA DA DHA NA PA PHA BA BHA MA YA RA LA VA SHA
  SSA SA HA LLA MODI_VOWEL_SIGN_: AA I II U UU VOCALIC_R VOCALIC_RR VOCALIC_L VOCALIC_LL E AI O AU
  MODI_SIGN_: ANUSVARA VISARGA VIRAMA ARDHACANDRA MODI_: DANDA DOUBLE_DANDA ABBREVIATION_SIGN
  SIGN_HUVA @11650 MODI_DIGIT_: ZERO ONE TWO THREE FOUR FIVE SIX SEVEN EIGHT NINE @11660
  MONGOLIAN_: BIRGA_WITH_ORNAMENT ROTATED_BIRGA DOUBLE_BIRGA_WITH_ORNAMENT
  TRIPLE_BIRGA_WITH_ORNAMENT BIRGA_WITH_DOUBLE_ORNAMENT ROTATED_BIRGA_WITH_ORNAMENT
  ROTATED_BIRGA_WITH_DOUBLE_ORNAMENT INVERTED_BIRGA INVERTED_BIRGA_WITH_DOUBLE_ORNAMENT SWIRL_BIRGA
  SWIRL_BIRGA_WITH_ORNAMENT SWIRL_BIRGA_WITH_DOUBLE_ORNAMENT
  TURNED_SWIRL_BIRGA_WITH_DOUBLE_ORNAMENT @11680 TAKRI_LETTER_: A AA I II U UU E AI O AU KA KHA GA
  GHA NGA CA CHA JA JHA NYA TTA TTHA DDA DDHA NNA TA THA DA DHA NA PA PHA BA BHA MA YA RA LA VA SHA
  SA HA RRA TAKRI_SIGN_: ANUSVARA VISARGA TAKRI_VOWEL_SIGN_: AA I II U UU E AI O AU TAKRI_:
  SIGN_VIRAMA SIGN_NUKTA LETTER_ARCHAIC_KHA ABBREVIATION_SIGN @116C0 TAKRI_DIGIT_: ZERO ONE TWO
  THREE FOUR FIVE SIX SEVEN EIGHT NINE @11700 AHOM_LETTER_: KA KHA NGA NA TA ALTERNATE_TA PA PHA BA
  MA JA CHA THA RA LA SA NYA HA A DA DHA GA ALTERNATE_GA GHA BHA JHA ALTERNATE_BA @1171D
  AHOM_CONSONANT_SIGN_MEDIAL_: LA RA LIGATING_RA AHOM_VOWEL_SIGN_: A AA I II U UU E AW O AI AM
  AHOM_SIGN_: KILLER @11730 AHOM_DIGIT_: ZERO ONE TWO THREE FOUR FIVE SIX SEVEN EIGHT NINE
  AHOM_NUMBER_: TEN TWENTY AHOM_SIGN_: SMALL_SECTION SECTION RULAI AHOM_SYMBOL_: VI AHOM_LETTER_:
  CA TTA TTHA DDA DDHA NNA LLA @11800 DOGRA_LETTER_: A AA I II U UU E AI O AU KA KHA GA GHA NGA CA
  CHA JA JHA NYA TTA TTHA DDA DDHA NNA TA THA DA DHA NA PA PHA BA BHA MA YA RA LA VA SHA SSA SA HA
  RRA DOGRA_VOWEL_SIGN_: AA I II U UU VOCALIC_R VOCALIC_RR E AI O AU DOGRA_SIGN_: ANUSVARA VISARGA
  VIRAMA NUKTA DOGRA_ABBREVIATION_: SIGN @118A0 WARANG_CITI_CAPITAL_LETTER_: NGAA A WI YU YA YO II
  UU E O ANG GA KO ENY YUJ UC ENN ODD TTE NUNG DA AT AM BU PU HIYO HOLO HORR HAR SSUU SII VIYO
  WARANG_CITI_SMALL_LETTER_: NGAA A WI YU YA YO II UU E O ANG GA KO ENY YUJ UC ENN ODD TTE NUNG DA
  AT AM BU PU HIYO HOLO HORR HAR SSUU SII VIYO WARANG_CITI_DIGIT_: ZERO ONE TWO THREE FOUR FIVE SIX
  SEVEN EIGHT NINE WARANG_CITI_NUMBER_: TEN TWENTY THIRTY FORTY FIFTY SIXTY SEVENTY EIGHTY NINETY
  @118FF WARANG_CITI_: OM DIVES_AKURU_LETTER_: A AA I II U UU E @11909 O @1190C KA KHA GA GHA NGA
  CA CHA JA @11915 NYA TTA @11918 DDA DDHA NNA TA THA DA DHA NA PA PHA BA BHA MA YA YYA RA LA VA
  SHA SSA SA HA LLA ZA DIVES_AKURU_VOWEL_SIGN_: AA I II U UU E @11937 AI O @1193B DIVES_AKURU_:
  SIGN_ANUSVARA SIGN_CANDRABINDU SIGN_HALANTA VIRAMA PREFIXED_NASAL_SIGN MEDIAL_YA INITIAL_RA
  MEDIAL_RA SIGN_NUKTA DOUBLE_DANDA GAP_FILLER END_OF_TEXT_MARK @11950 DIVES_AKURU_DIGIT_: ZERO ONE
  TWO THREE FOUR FIVE SIX SEVEN EIGHT NINE @119A0 NANDINAGARI_LETTER_: A AA I II U UU VOCALIC_R
  VOCALIC_RR @119AA E AI O AU KA KHA GA GHA NGA CA CHA JA JHA NYA TTA TTHA DDA DDHA NNA TA THA DA
  DHA NA PA PHA BA BHA MA YA RA LA VA SHA SSA SA HA LLA RRA NANDINAGARI_VOWEL_SIGN_: AA I II U UU
  VOCALIC_R VOCALIC_RR @119DA E AI O AU NANDINAGARI_SIGN_: ANUSVARA VISARGA VIRAMA AVAGRAHA SIDDHAM
  NANDINAGARI_: HEADSTROKE VOWEL_SIGN_PRISHTHAMATRA_E @11A00 ZANABAZAR_SQUARE_LETTER_: A
  ZANABAZAR_SQUARE_VOWEL_SIGN_: I UE U E OE O AI AU REVERSED_I ZANABAZAR_SQUARE_VOWEL_LENGTH_: MARK
  ZANABAZAR_SQUARE_LETTER_: KA KHA GA GHA NGA CA CHA JA NYA TTA TTHA DDA DDHA NNA TA THA DA DHA NA
  PA PHA BA BHA MA TSA TSHA DZA DZHA ZHA ZA -A YA RA LA VA SHA SSA SA HA KSSA ZANABAZAR_SQUARE_:
  FINAL_CONSONANT_MARK SIGN_VIRAMA SIGN_CANDRABINDU SIGN_CANDRABINDU_WITH_ORNAMENT
  SIGN_CANDRA_WITH_ORNAMENT SIGN_ANUSVARA SIGN_VISARGA CLUSTER-INITIAL_LETTER_RA
  ZANABAZAR_SQUARE_CLUSTER-FINAL_LETTER_: YA RA LA VA ZANABAZAR_SQUARE_: INITIAL_HEAD_MARK
  CLOSING_HEAD_MARK MARK_TSHEG MARK_SHAD MARK_DOUBLE_SHAD MARK_LONG_TSHEG
  INITIAL_DOUBLE-LINED_HEAD_MARK CLOSING_DOUBLE-LINED_HEAD_MARK SUBJOINER @11A50 SOYOMBO_LETTER_: A
  SOYOMBO_VOWEL_SIGN_: I UE U E O OE AI AU VOCALIC_R VOCALIC_L SOYOMBO_VOWEL_LENGTH_: MARK
  SOYOMBO_LETTER_: KA KHA GA GHA NGA CA CHA JA JHA NYA TTA TTHA DDA DDHA NNA TA THA DA DHA NA PA
  PHA BA BHA MA TSA TSHA DZA ZHA ZA -A YA RA LA VA SHA SSA SA HA KSSA SOYOMBO_SIGN_: JIHVAMULIYA
  UPADHMANIYA SOYOMBO_CLUSTER-INITIAL_LETTER_: RA LA SHA SA SOYOMBO_FINAL_CONSONANT_SIGN_: G K NG D
  N B M R L SH S -A SOYOMBO_: SIGN_ANUSVARA SIGN_VISARGA GEMINATION_MARK SUBJOINER SOYOMBO_MARK_:
  TSHEG SHAD DOUBLE_SHAD PLUTA SOYOMBO_HEAD_MARK_WITH_MOON_AND_: SUN_AND_TRIPLE_FLAME SUN_AND_FLAME
  SUN SOYOMBO_TERMINAL_MARK-: 1 2 @11AB0 CANADIAN_SYLLABICS_NATTILIK_: HI HII HO HOO HA HAA SHRI
  SHRII SHRO SHROO SHRA SHRAA CANADIAN_SYLLABICS_: SPE SPI SPO SPA PAU_CIN_HAU_LETTER_: PA KA LA MA
  DA ZA VA NGA HA GA KHA SA BA CA TA THA NA PHA RA FA CHA A E I O U UA IA
  PAU_CIN_HAU_LETTER_FINAL_: P K T M N L W NG Y PAU_CIN_HAU_: RISING_TONE_LONG RISING_TONE
  SANDHI_GLOTTAL_STOP RISING_TONE_LONG_FINAL RISING_TONE_FINAL SANDHI_GLOTTAL_STOP_FINAL
  SANDHI_TONE_LONG SANDHI_TONE SANDHI_TONE_LONG_FINAL SANDHI_TONE_FINAL MID-LEVEL_TONE
  GLOTTAL_STOP_VARIANT MID-LEVEL_TONE_LONG_FINAL MID-LEVEL_TONE_FINAL LOW-FALLING_TONE_LONG
  LOW-FALLING_TONE GLOTTAL_STOP LOW-FALLING_TONE_LONG_FINAL LOW-FALLING_TONE_FINAL
  GLOTTAL_STOP_FINAL @11C00 BHAIKSUKI_LETTER_: A AA I II U UU VOCALIC_R VOCALIC_RR VOCALIC_L @11C0A
  E AI O AU KA KHA GA GHA NGA CA CHA JA JHA NYA TTA TTHA DDA DDHA NNA TA THA DA DHA NA PA PHA BA
  BHA MA YA RA LA VA SHA SSA SA HA BHAIKSUKI_VOWEL_SIGN_: AA I II U UU VOCALIC_R VOCALIC_RR
  VOCALIC_L @11C38 E AI O AU BHAIKSUKI_SIGN_: CANDRABINDU ANUSVARA VISARGA VIRAMA AVAGRAHA
  BHAIKSUKI_: DANDA DOUBLE_DANDA WORD_SEPARATOR GAP_FILLER-1 GAP_FILLER-2 @11C50 BHAIKSUKI_DIGIT_:
  ZERO ONE TWO THREE FOUR FIVE SIX SEVEN EIGHT NINE BHAIKSUKI_NUMBER_: ONE TWO THREE FOUR FIVE SIX
  SEVEN EIGHT NINE TEN TWENTY THIRTY FORTY FIFTY SIXTY SEVENTY EIGHTY NINETY
  BHAIKSUKI_HUNDREDS_UNIT_: MARK @11C70 MARCHEN_: HEAD_MARK MARK_SHAD MARCHEN_LETTER_: KA KHA GA
  NGA CA CHA JA NYA TA THA DA NA PA PHA BA MA TSA TSHA DZA WA ZHA ZA -A YA RA LA SHA SA HA A @11C92
  MARCHEN_SUBJOINED_LETTER_: KA KHA GA NGA CA CHA JA NYA TA THA DA NA PA PHA BA MA TSA TSHA DZA WA
  ZHA ZA @11CA9 YA RA LA SHA SA HA A MARCHEN_VOWEL_SIGN_: AA I U E O MARCHEN_SIGN_: ANUSVARA
  CANDRABINDU @11D00 MASARAM_GONDI_LETTER_: A AA I II U UU E @11D08 AI O @11D0B AU KA KHA GA GHA
  NGA CA CHA JA JHA NYA TTA TTHA DDA DDHA NNA TA THA DA DHA NA PA PHA BA BHA MA YA RA LA VA SHA SSA
  SA HA LLA KSSA JNYA TRA MASARAM_GONDI_VOWEL_SIGN_: AA I II U UU VOCALIC_R @11D3A E @11D3C AI O
  @11D3F MASARAM_GONDI_: VOWEL_SIGN_AU SIGN_ANUSVARA SIGN_VISARGA SIGN_NUKTA SIGN_CANDRA
  SIGN_HALANTA VIRAMA REPHA RA-KARA @11D50 MASARAM_GONDI_DIGIT_: ZERO ONE TWO THREE FOUR FIVE SIX
  SEVEN EIGHT NINE @11D60 GUNJALA_GONDI_LETTER_: A AA I II U UU @11D67 EE AI @11D6A OO AU YA VA BA
  BHA MA KA KHA TA THA LA GA GHA DA DHA NA CA CHA TTA TTHA LLA JA JHA DDA DDHA NGA PA PHA HA RA SA
  GUNJALA_GONDI_VOWEL_SIGN_: AA I II U UU @11D90 EE AI @11D93 GUNJALA_GONDI_: VOWEL_SIGN_OO
  VOWEL_SIGN_AU SIGN_ANUSVARA SIGN_VISARGA VIRAMA OM @11DA0 GUNJALA_GONDI_DIGIT_: ZERO ONE TWO
  THREE FOUR FIVE SIX SEVEN EIGHT NINE @11EE0 MAKASAR_LETTER_: KA GA NGA PA BA MA TA DA NA CA JA
  NYA YA RA LA VA SA A MAKASAR_: ANGKA MAKASAR_VOWEL_SIGN_: I U E O MAKASAR_: PASSIMBANG
  END_OF_SECTION @11FB0 LISU_LETTER_: YHA @11FC0 TAMIL_FRACTION_ONE_: THREE-HUNDRED-AND-TWENTIETH
  ONE-HUNDRED-AND-SIXTIETH EIGHTIETH SIXTY-FOURTH FORTIETH THIRTY-SECOND TAMIL_FRACTION_:
  THREE_EIGHTIETHS THREE_SIXTY-FOURTHS ONE_TWENTIETH ONE_SIXTEENTH-1 ONE_SIXTEENTH-2 ONE_TENTH
  ONE_EIGHTH THREE_TWENTIETHS THREE_SIXTEENTHS ONE_FIFTH ONE_QUARTER ONE_HALF-1 ONE_HALF-2
  THREE_QUARTERS DOWNSCALING_FACTOR_KIIZH TAMIL_SIGN_: NEL CEVITU AAZHAAKKU UZHAKKU MUUVUZHAKKU
  KURUNI PATHAKKU MUKKURUNI KAACU PANAM PON VARAAKAN PAARAM KUZHI VELI TAMIL_: WET_CULTIVATION_SIGN
  DRY_CULTIVATION_SIGN LAND_SIGN SALT_PAN_SIGN TRADITIONAL_CREDIT_SIGN TRADITIONAL_NUMBER_SIGN
  CURRENT_SIGN AND_ODD_SIGN SPENT_SIGN TOTAL_SIGN IN_POSSESSION_SIGN STARTING_FROM_SIGN
  SIGN_MUTHALIYA SIGN_VAKAIYARAA @11FFF : TAMIL_PUNCTUATION_END_OF_TEXT CUNEIFORM_SIGN_A
  CUNEIFORM_SIGN_A_TIMES_: A BAD GAN2_TENU HA IGI LAGAR_GUNU MUSH SAG CUNEIFORM_SIGN_: A2 AB
  CUNEIFORM_SIGN_AB_TIMES_: ASH2 DUN3_GUNU GAL GAN2_TENU HA IGI_GUNU IMIN LAGAB SHESH
  U_PLUS_U_PLUS_U CUNEIFORM_SIGN_: AB_GUNU AB2 CUNEIFORM_SIGN_AB2_TIMES_: BALAG GAN2_TENU
  ME_PLUS_EN SHA3 TAK4 CUNEIFORM_SIGN_: AD AK AK_TIMES_ERIN2 AK_TIMES_SHITA_PLUS_GISH AL
  CUNEIFORM_SIGN_AL_TIMES_: AL DIM2 GISH HA KAD3 KI SHE USH CUNEIFORM_SIGN_: ALAN ALEPH AMAR
  AMAR_TIMES_SHE AN AN_OVER_AN AN_THREE_TIMES AN_PLUS_NAGA_OPPOSING_AN_PLUS_NAGA
  AN_PLUS_NAGA_SQUARED ANSHE APIN ARAD ARAD_TIMES_KUR ARKAB ASAL2 ASH ASH_ZIDA_TENU ASH_KABA_TENU
  ASH_OVER_ASH_TUG2_OVER_TUG2_TUG2_OVER_TUG2_PAP ASH_OVER_ASH_OVER_ASH
  ASH_OVER_ASH_OVER_ASH_CROSSING_ASH_OVER_ASH_OVER_ASH ASH2 ASHGAB BA BAD BAG3 BAHAR2 BAL
  BAL_OVER_BAL BALAG BAR BARA2 BI BI_TIMES_A BI_TIMES_GAR BI_TIMES_IGI_GUNU BU BU_OVER_BU_AB
  BU_OVER_BU_UN BU_CROSSING_BU BULUG BULUG_OVER_BULUG BUR BUR2 DA DAG
  CUNEIFORM_SIGN_DAG_KISIM5_TIMES_: A_PLUS_MASH AMAR BALAG BI GA GA_PLUS_MASH GI GIR2 GUD HA IR
  IR_PLUS_LU KAK LA LU LU_PLUS_MASH2 LUM NE PAP_PLUS_PAP SI TAK4 U2_PLUS_GIR2 USH CUNEIFORM_SIGN_:
  DAM DAR DARA3 DARA4 DI DIB DIM DIM_TIMES_SHE DIM2 DIN DIN_KASKAL_U_GUNU_DISH DISH DU DU_OVER_DU
  DU_GUNU DU_SHESHIG DUB DUB_TIMES_ESH2 DUB2 DUG DUGUD DUH DUN DUN3 DUN3_GUNU DUN3_GUNU_GUNU DUN4
  DUR2 E E_TIMES_PAP E_OVER_E_NUN_OVER_NUN E2 CUNEIFORM_SIGN_E2_TIMES_: A_PLUS_HA_PLUS_DA GAR MI
  SAL SHE U CUNEIFORM_SIGN_: EDIN EGIR EL EN EN_TIMES_GAN2 EN_TIMES_GAN2_TENU EN_TIMES_ME
  EN_CROSSING_EN EN_OPPOSING_EN EN_SQUARED EREN ERIN2 ESH2 EZEN CUNEIFORM_SIGN_EZEN_TIMES_: A
  A_PLUS_LAL A_PLUS_LAL_TIMES_LAL AN BAD DUN3_GUNU DUN3_GUNU_GUNU HA HA_GUNU IGI_GUNU KASKAL
  KASKAL_SQUARED KU3 LA LAL_TIMES_LAL LI LU U2 UD CUNEIFORM_SIGN_: GA GA_GUNU GA2
  CUNEIFORM_SIGN_GA2_TIMES_: A_PLUS_DA_PLUS_HA A_PLUS_HA A_PLUS_IGI AB2_TENU_PLUS_TAB AN ASH
  ASH2_PLUS_GAL BAD BAR_PLUS_RA BUR BUR_PLUS_RA DA DI DIM_TIMES_SHE DUB EL EL_PLUS_LA EN
  EN_TIMES_GAN2_TENU GAN2_TENU GAR GI GI4 GI4_PLUS_A GIR2_PLUS_SU HA_PLUS_LU_PLUS_ESH2 HAL
  HAL_PLUS_LA HI_PLUS_LI HUB2 IGI_GUNU ISH_PLUS_HU_PLUS_ASH KAK KASKAL KID KID_PLUS_LAL KU3_PLUS_AN
  LA ME_PLUS_EN MI NUN NUN_OVER_NUN PA SAL SAR SHE SHE_PLUS_TUR SHID SUM TAK4 U UD UD_PLUS_DU
  CUNEIFORM_SIGN_: GA2_OVER_GA2 GABA GABA_CROSSING_GABA GAD GAD_OVER_GAD_GAR_OVER_GAR GAL
  GAL_GAD_OVER_GAD_GAR_OVER_GAR GALAM GAM GAN GAN2 GAN2_TENU GAN2_OVER_GAN2 GAN2_CROSSING_GAN2 GAR
  GAR3 GASHAN GESHTIN GESHTIN_TIMES_KUR GI GI_TIMES_E GI_TIMES_U GI_CROSSING_GI GI4 GI4_OVER_GI4
  GI4_CROSSING_GI4 GIDIM GIR2 GIR2_GUNU GIR3 CUNEIFORM_SIGN_GIR3_TIMES_: A_PLUS_IGI GAN2_TENU IGI
  LU_PLUS_IGI PA CUNEIFORM_SIGN_: GISAL GISH GISH_CROSSING_GISH GISH_TIMES_BAD GISH_TIMES_TAK4
  GISH_TENU GU GU_CROSSING_GU GU2 GU2_TIMES_KAK GU2_TIMES_KAK_TIMES_IGI_GUNU GU2_TIMES_NUN
  GU2_TIMES_SAL_PLUS_TUG2 GU2_GUNU GUD GUD_TIMES_A_PLUS_KUR GUD_TIMES_KUR GUD_OVER_GUD_LUGAL GUL
  GUM GUM_TIMES_SHE GUR GUR7 GURUN GURUSH HA HA_TENU HA_GUNU HAL HI CUNEIFORM_SIGN_HI_TIMES_: ASH
  ASH2 BAD DISH GAD KIN NUN SHE U CUNEIFORM_SIGN_: HU HUB2 CUNEIFORM_SIGN_HUB2_TIMES_: AN HAL
  KASKAL LISH UD CUNEIFORM_SIGN_: HUL2 I I_A IB IDIM IDIM_OVER_IDIM_BUR IDIM_OVER_IDIM_SQUARED IG
  IGI IGI_DIB IGI_RI IGI_OVER_IGI_SHIR_OVER_SHIR_UD_OVER_UD IGI_GUNU IL IL_TIMES_GAN2_TENU IL2 IM
  IM_TIMES_TAK4 IM_CROSSING_IM IM_OPPOSING_IM IM_SQUARED IMIN IN IR ISH KA
  CUNEIFORM_SIGN_KA_TIMES_: A AD AD_PLUS_KU3 ASH2 BAD BALAG BAR BI ERIN2 ESH2 GA GAL GAN2_TENU GAR
  GAR_PLUS_SHA3_PLUS_A GI GIR2 GISH_PLUS_SAR GISH_CROSSING_GISH GU GUR7 IGI IM KAK KI KID LI LU ME
  ME_PLUS_DU ME_PLUS_GI ME_PLUS_TE MI MI_PLUS_NUNUZ NE NUN PI RU SA SAR SHA SHE SHID SHU SIG SUHUR
  TAR U U2 UD UMUM_TIMES_PA USH ZI CUNEIFORM_SIGN_: KA2 KA2_CROSSING_KA2 KAB KAD2 KAD3 KAD4 KAD5
  KAD5_OVER_KAD5 KAK KAK_TIMES_IGI_GUNU KAL KAL_TIMES_BAD KAL_CROSSING_KAL KAM2 KAM4 KASKAL
  KASKAL_LAGAB_TIMES_U_OVER_LAGAB_TIMES_U KASKAL_OVER_KASKAL_LAGAB_TIMES_U_OVER_LAGAB_TIMES_U KESH2
  KI KI_TIMES_BAD KI_TIMES_U KI_TIMES_UD KID KIN KISAL KISH KISIM5 KISIM5_OVER_KISIM5 KU
  KU_OVER_HI_TIMES_ASH2_KU_OVER_HI_TIMES_ASH2 KU3 KU4 KU4_VARIANT_FORM KU7 KUL KUL_GUNU KUN KUR
  KUR_OPPOSING_KUR KUSHU2 KWU318 LA LAGAB CUNEIFORM_SIGN_LAGAB_TIMES_: A A_PLUS_DA_PLUS_HA
  A_PLUS_GAR A_PLUS_LAL AL AN ASH_ZIDA_TENU BAD BI DAR EN GA GAR GUD GUD_PLUS_GUD HA HAL
  HI_TIMES_NUN IGI_GUNU IM IM_PLUS_HA IM_PLUS_LU KI KIN KU3 KUL KUL_PLUS_HI_PLUS_A LAGAB LISH LU
  LUL ME ME_PLUS_EN MUSH NE SHE_PLUS_SUM SHITA_PLUS_GISH_PLUS_ERIN2 SHITA_PLUS_GISH_TENU SHU2
  SHU2_PLUS_SHU2 SUM TAG TAK4 TE_PLUS_A_PLUS_SU_PLUS_NA U U_PLUS_A U_PLUS_U_PLUS_U U2_PLUS_ASH UD
  USH CUNEIFORM_SIGN_: LAGAB_SQUARED LAGAR LAGAR_TIMES_SHE LAGAR_TIMES_SHE_PLUS_SUM LAGAR_GUNU
  LAGAR_GUNU_OVER_LAGAR_GUNU_SHE LAHSHU LAL LAL_TIMES_LAL LAM LAM_TIMES_KUR LAM_TIMES_KUR_PLUS_RU
  LI LIL LIMMU2 LISH LU LU_TIMES_BAD LU2 CUNEIFORM_SIGN_LU2_TIMES_: AL BAD ESH2 ESH2_TENU GAN2_TENU
  HI_TIMES_BAD IM KAD2 KAD3 KAD3_PLUS_ASH KI LA_PLUS_ASH LAGAB ME_PLUS_EN NE NU SI_PLUS_ASH
  SIK2_PLUS_BU TUG2 CUNEIFORM_SIGN_: LU2_TENU LU2_CROSSING_LU2 LU2_OPPOSING_LU2 LU2_SQUARED
  LU2_SHESHIG LU3 LUGAL LUGAL_OVER_LUGAL LUGAL_OPPOSING_LUGAL LUGAL_SHESHIG LUH LUL LUM
  LUM_OVER_LUM LUM_OVER_LUM_GAR_OVER_GAR MA MA_TIMES_TAK4 MA_GUNU MA2 MAH MAR MASH MASH2 ME MES MI
  MIN MU MU_OVER_MU MUG MUG_GUNU MUNSUB MURGU2 MUSH MUSH_TIMES_A MUSH_TIMES_KUR MUSH_TIMES_ZA
  MUSH_OVER_MUSH MUSH_OVER_MUSH_TIMES_A_PLUS_NA MUSH_CROSSING_MUSH MUSH3 MUSH3_TIMES_A
  MUSH3_TIMES_A_PLUS_DI MUSH3_TIMES_DI MUSH3_GUNU NA NA2 NAGA NAGA_INVERTED NAGA_TIMES_SHU_TENU
  NAGA_OPPOSING_NAGA NAGAR NAM_NUTILLU NAM NAM2 NE NE_TIMES_A NE_TIMES_UD NE_SHESHIG NI NI_TIMES_E
  NI2 NIM NIM_TIMES_GAN2_TENU NIM_TIMES_GAR_PLUS_GAN2_TENU NINDA2 CUNEIFORM_SIGN_NINDA2_TIMES_: AN
  ASH ASH_PLUS_ASH GUD ME_PLUS_GAN2_TENU NE NUN SHE SHE_PLUS_A_AN SHE_PLUS_ASH
  SHE_PLUS_ASH_PLUS_ASH U2_PLUS_ASH USH CUNEIFORM_SIGN_: NISAG NU NU11 NUN
  CUNEIFORM_SIGN_NUN_LAGAR_TIMES_: GAR MASH SAL SAL_OVER_NUN_LAGAR_TIMES_SAL USH CUNEIFORM_SIGN_:
  NUN_TENU NUN_OVER_NUN NUN_CROSSING_NUN NUN_CROSSING_NUN_LAGAR_OVER_LAGAR NUNUZ
  CUNEIFORM_SIGN_NUNUZ_AB2_TIMES_: ASHGAB BI DUG GUD IGI_GUNU KAD3 LA NE SILA3 U2
  CUNEIFORM_SIGN_NUNUZ_KISIM5_TIMES_: BI BI_U CUNEIFORM_SIGN_: PA PAD PAN PAP PESH2 PI
  CUNEIFORM_SIGN_PI_TIMES_: A AB BI BU E I IB U U2 CUNEIFORM_SIGN_: PI_CROSSING_PI PIRIG
  PIRIG_TIMES_KAL PIRIG_TIMES_UD PIRIG_TIMES_ZA PIRIG_OPPOSING_PIRIG RA RAB RI RU SA SAG_NUTILLU
  SAG CUNEIFORM_SIGN_SAG_TIMES_: A DU DUB HA KAK KUR LUM MI NUN SAL SHID TAB U2 UB UM UR USH
  CUNEIFORM_SIGN_: SAG_OVER_SAG SAG_GUNU SAL SAL_LAGAB_TIMES_ASH2 SANGA2 SAR SHA SHA3
  CUNEIFORM_SIGN_SHA3_TIMES_: A BAD GISH NE SHU2 TUR U U_PLUS_A CUNEIFORM_SIGN_: SHA6 SHAB6 SHAR2
  SHE SHE_HU SHE_OVER_SHE_GAD_OVER_GAD_GAR_OVER_GAR SHE_OVER_SHE_TAB_OVER_TAB_GAR_OVER_GAR SHEG9
  SHEN SHESH SHESH2 SHESHLAM SHID SHID_TIMES_A SHID_TIMES_IM SHIM CUNEIFORM_SIGN_SHIM_TIMES_: A BAL
  BULUG DIN GAR IGI IGI_GUNU KUSHU2 LUL MUG SAL CUNEIFORM_SIGN_: SHINIG SHIR SHIR_TENU
  SHIR_OVER_SHIR_BUR_OVER_BUR SHITA SHU SHU_OVER_INVERTED_SHU SHU2 SHUBUR SI SI_GUNU SIG SIG4
  SIG4_OVER_SIG4_SHU2 SIK2 SILA3 SU SU_OVER_SU SUD SUD2 SUHUR SUM SUMASH SUR SUR9 TA TA_ASTERISK
  TA_TIMES_HI TA_TIMES_MI TA_GUNU TAB TAB_OVER_TAB_NI_OVER_NI_DISH_OVER_DISH TAB_SQUARED TAG
  CUNEIFORM_SIGN_TAG_TIMES_: BI GUD SHE SHU TUG2 UD CUNEIFORM_SIGN_: TAK4 TAR TE TE_GUNU TI TI_TENU
  TIL TIR TIR_TIMES_TAK4 TIR_OVER_TIR TIR_OVER_TIR_GAD_OVER_GAD_GAR_OVER_GAR TU TUG2 TUK TUM TUR
  TUR_OVER_TUR_ZA_OVER_ZA U U_GUD U_U_U U_OVER_U_PA_OVER_PA_GAR_OVER_GAR U_OVER_U_SUR_OVER_SUR
  U_OVER_U_U_REVERSED_OVER_U_REVERSED U2 UB UD UD_KUSHU2 UD_TIMES_BAD UD_TIMES_MI
  UD_TIMES_U_PLUS_U_PLUS_U UD_TIMES_U_PLUS_U_PLUS_U_GUNU UD_GUNU UD_SHESHIG UD_SHESHIG_TIMES_BAD
  UDUG UM UM_TIMES_LAGAB UM_TIMES_ME_PLUS_DA UM_TIMES_SHA3 UM_TIMES_U UMBIN UMUM UMUM_TIMES_KASKAL
  UMUM_TIMES_PA UN UN_GUNU UR UR_CROSSING_UR UR_SHESHIG UR2 CUNEIFORM_SIGN_UR2_TIMES_: A_PLUS_HA
  A_PLUS_NA AL HA NUN U2 U2_PLUS_ASH U2_PLUS_BI CUNEIFORM_SIGN_: UR4 URI URI3 URU
  CUNEIFORM_SIGN_URU_TIMES_: A ASHGAB BAR DUN GA GAL GAN2_TENU GAR GU HA IGI IM ISH KI LUM MIN PA
  SHE SIG4 TU U_PLUS_GUD UD URUDA CUNEIFORM_SIGN_: URUDA URUDA_TIMES_U USH USH_TIMES_A USH_TIMES_KU
  USH_TIMES_KUR USH_TIMES_TAK4 USHX USH2 USHUMX UTUKI UZ3 UZ3_TIMES_KASKAL UZU ZA ZA_TENU
  ZA_SQUARED_TIMES_KUR ZAG ZAMX ZE2 ZI ZI_OVER_ZI ZI3 ZIB ZIB_KABA_TENU ZIG ZIZ2 ZU ZU5 ZU5_TIMES_A
  ZUBUR ZUM KAP_ELAMITE AB_TIMES_NUN AB2_TIMES_A AMAR_TIMES_KUG DAG_KISIM5_TIMES_U2_PLUS_MASH DAG3
  DISH_PLUS_SHU DUB_TIMES_SHE EZEN_TIMES_GUD EZEN_TIMES_SHE GA2_TIMES_AN_PLUS_KAK_PLUS_A
  GA2_TIMES_ASH2 GE22 GIG HUSH CUNEIFORM_SIGN_KA_TIMES_: ANSHE ASH3 GISH GUD HI_TIMES_ASH2 LUM PA
  SHUL TU UR2 CUNEIFORM_SIGN_: LAGAB_TIMES_GI LU2_SHESHIG_TIMES_BAD LU2_TIMES_ESH2_PLUS_LAL
  LU2_TIMES_SHU MESH MUSH3_TIMES_ZA NA4 NIN NIN9 NINDA2_TIMES_BAL NINDA2_TIMES_GI
  NU11_ROTATED_NINETY_DEGREES PESH2_ASTERISK PIR2 SAG_TIMES_IGI_GUNU TI2 UM_TIMES_ME U_U @12400
  CUNEIFORM_NUMERIC_SIGN_: TWO_ASH THREE_ASH FOUR_ASH FIVE_ASH SIX_ASH SEVEN_ASH EIGHT_ASH NINE_ASH
  THREE_DISH FOUR_DISH FIVE_DISH SIX_DISH SEVEN_DISH EIGHT_DISH NINE_DISH FOUR_U FIVE_U SIX_U
  SEVEN_U EIGHT_U NINE_U ONE_GESH2 TWO_GESH2 THREE_GESH2 FOUR_GESH2 FIVE_GESH2 SIX_GESH2
  SEVEN_GESH2 EIGHT_GESH2 NINE_GESH2 ONE_GESHU TWO_GESHU THREE_GESHU FOUR_GESHU FIVE_GESHU
  TWO_SHAR2 THREE_SHAR2 THREE_SHAR2_VARIANT_FORM FOUR_SHAR2 FIVE_SHAR2 SIX_SHAR2 SEVEN_SHAR2
  EIGHT_SHAR2 NINE_SHAR2 ONE_SHARU TWO_SHARU THREE_SHARU THREE_SHARU_VARIANT_FORM FOUR_SHARU
  FIVE_SHARU SHAR2_TIMES_GAL_PLUS_DISH SHAR2_TIMES_GAL_PLUS_MIN ONE_BURU TWO_BURU THREE_BURU
  THREE_BURU_VARIANT_FORM FOUR_BURU FIVE_BURU THREE_VARIANT_FORM_ESH16 THREE_VARIANT_FORM_ESH21
  CUNEIFORM_NUMERIC_SIGN_FOUR_VARIANT_FORM_: LIMMU LIMMU4 LIMMU_A LIMMU_B
  CUNEIFORM_NUMERIC_SIGN_SIX_VARIANT_FORM_: ASH9 CUNEIFORM_NUMERIC_SIGN_SEVEN_VARIANT_FORM_: IMIN3
  IMIN_A IMIN_B CUNEIFORM_NUMERIC_SIGN_EIGHT_VARIANT_FORM_: USSU USSU3
  CUNEIFORM_NUMERIC_SIGN_NINE_VARIANT_FORM_: ILIMMU ILIMMU3 ILIMMU4 ILIMMU_A
  CUNEIFORM_NUMERIC_SIGN_: TWO_ASH_TENU THREE_ASH_TENU FOUR_ASH_TENU FIVE_ASH_TENU SIX_ASH_TENU
  ONE_BAN2 TWO_BAN2 THREE_BAN2 FOUR_BAN2 FOUR_BAN2_VARIANT_FORM FIVE_BAN2 FIVE_BAN2_VARIANT_FORM
  NIGIDAMIN NIGIDAESH ONE_ESHE3 TWO_ESHE3 ONE_THIRD_DISH TWO_THIRDS_DISH FIVE_SIXTHS_DISH
  ONE_THIRD_VARIANT_FORM_A TWO_THIRDS_VARIANT_FORM_A ONE_EIGHTH_ASH ONE_QUARTER_ASH
  OLD_ASSYRIAN_ONE_SIXTH OLD_ASSYRIAN_ONE_QUARTER ONE_QUARTER_GUR ONE_HALF_GUR ELAMITE_ONE_THIRD
  ELAMITE_TWO_THIRDS ELAMITE_FORTY ELAMITE_FIFTY FOUR_U_VARIANT_FORM FIVE_U_VARIANT_FORM
  SIX_U_VARIANT_FORM SEVEN_U_VARIANT_FORM EIGHT_U_VARIANT_FORM NINE_U_VARIANT_FORM @12470
  CUNEIFORM_PUNCTUATION_SIGN_: OLD_ASSYRIAN_WORD_DIVIDER VERTICAL_COLON DIAGONAL_COLON
  DIAGONAL_TRICOLON DIAGONAL_QUADCOLON @12480 CUNEIFORM_SIGN_: AB_TIMES_NUN_TENU AB_TIMES_SHU2
  AD_TIMES_ESH2 BAD_TIMES_DISH_TENU BAHAR2_TIMES_AB2 BAHAR2_TIMES_NI BAHAR2_TIMES_ZA
  BU_OVER_BU_TIMES_NA2 DA_TIMES_TAK4 DAG_TIMES_KUR DIM_TIMES_IGI DIM_TIMES_U_U_U DIM2_TIMES_UD
  CUNEIFORM_SIGN_DUG_TIMES_: ANSHE ASH ASH_AT_LEFT DIN DUN ERIN2 GA GI GIR2_GUNU GISH HA HI
  IGI_GUNU KASKAL KUR KUSHU2 KUSHU2_PLUS_KASKAL LAK-020 LAM LAM_TIMES_KUR LUH_PLUS_GISH MASH MES MI
  NI PI SHE SI_GUNU CUNEIFORM_SIGN_: E2_TIMES_KUR E2_TIMES_PAP ERIN2_X ESH2_CROSSING_ESH2
  CUNEIFORM_SIGN_EZEN_SHESHIG_TIMES_: ASH HI IGI_GUNU LA LAL ME MES SU CUNEIFORM_SIGN_EZEN_TIMES_:
  SU CUNEIFORM_SIGN_GA2_TIMES_: BAHAR2 DIM_GUNU DUG_TIMES_IGI_GUNU DUG_TIMES_KASKAL EREN GA
  GAR_PLUS_DI GAR_PLUS_NE HA_PLUS_A KUSHU2_PLUS_KASKAL LAM LAM_TIMES_KUR LUH MUSH NE NE_PLUS_E2
  NE_PLUS_GI SHIM ZIZ2 CUNEIFORM_SIGN_: GABA_ROTATED_NINETY_DEGREES GESHTIN_TIMES_U
  GISH_TIMES_GISH_CROSSING_GISH GU2_TIMES_IGI_GUNU GUD_PLUS_GISH_TIMES_TAK4 HA_TENU_GUNU
  HI_TIMES_ASH_OVER_HI_TIMES_ASH KA_TIMES_BU KA_TIMES_KA KA_TIMES_U_U_U KA_TIMES_UR
  LAGAB_TIMES_ZU_OVER_ZU CUNEIFORM_SIGN_LAK-: 003 021 025 030 050 051 062 079_OVER_LAK-079_GUNU 080
  081_OVER_LAK-081 092 130 142 210 219 220 225 228 238 265 266 343 347 348 383 384 390 441 449
  449_TIMES_GU 449_TIMES_IGI 449_TIMES_PAP_PLUS_LU3 449_TIMES_PAP_PLUS_PAP_PLUS_LU3
  449_TIMES_U2_PLUS_BA 450 457 470 483 490 492 493 495 550 608 617 CUNEIFORM_SIGN_LAK-617_TIMES_:
  ASH BAD DUN3_GUNU_GUNU KU3 LA TAR TE U2 UD URUDA CUNEIFORM_SIGN_LAK-: 636 648
  CUNEIFORM_SIGN_LAK-648_TIMES_: DUB GA IGI IGI_GUNU NI PAP_PLUS_PAP_PLUS_LU3 SHESH_PLUS_KI UD
  URUDA CUNEIFORM_SIGN_: LAK-724 LAK-749 LU2_GUNU_TIMES_ASH CUNEIFORM_SIGN_LU2_TIMES_: DISH HAL PAP
  PAP_PLUS_PAP_PLUS_LU3 TAK4 CUNEIFORM_SIGN_MI_PLUS_: ZA7 CUNEIFORM_SIGN_MUSH_OVER_MUSH_TIMES_: GA
  KAK CUNEIFORM_SIGN_NINDA2_TIMES_: DIM_GUNU GISH GUL HI KESH2 LAK-050 MASH PAP_PLUS_PAP U U_PLUS_U
  URUDA CUNEIFORM_SIGN_: SAG_GUNU_TIMES_HA SAG_TIMES_EN SAG_TIMES_SHE_AT_LEFT SAG_TIMES_TAK4
  SHA6_TENU SHE_OVER_SHE SHE_PLUS_HUB2 SHE_PLUS_NAM2 SHE_PLUS_SAR SHU2_PLUS_DUG_TIMES_NI
  SHU2_PLUS_E2_TIMES_AN SI_TIMES_TAK4 TAK4_PLUS_SAG TUM_TIMES_GAN2_TENU TUM_TIMES_THREE_DISH
  UR2_INVERTED UR2_TIMES_UD URU_TIMES_DARA3 URU_TIMES_LAK-668 URU_TIMES_LU3 ZA7 ZU_OVER_ZU_PLUS_SAR
  ZU5_TIMES_THREE_DISH_TENU @12F90 CYPRO-MINOAN_SIGN_: CM001 CM002 CM004 CM005 CM006 CM007 CM008
  CM009 CM010 CM011 CM012 CM012B CM013 CM015 CM017 CM019 CM021 CM023 CM024 CM025 CM026 CM027 CM028
  CM029 CM030 CM033 CM034 CM035 CM036 CM037 CM038 CM039 CM040 CM041 CM044 CM046 CM047 CM049 CM050
  CM051 CM052 CM053 CM054 CM055 CM056 CM058 CM059 CM060 CM061 CM062 CM063 CM064 CM066 CM067 CM068
  CM069 CM070 CM071 CM072 CM073 CM074 CM075 CM075B CM076 CM078 CM079 CM080 CM081 CM082 CM083 CM084
  CM085 CM086 CM087 CM088 CM089 CM090 CM091 CM092 CM094 CM095 CM096 CM097 CM098 CM099 CM100 CM101
  CM102 CM103 CM104 CM105 CM107 CM108 CM109 CM110 CM112 CM114 CM301 CM302 @13000
  EGYPTIAN_HIEROGLYPH_: A001 A002 A003 A004 A005 A005A A006 A006A A006B A007 A008 A009 A010 A011
  A012 A013 A014 A014A A015 A016 A017 A017A A018 A019 A020 A021 A022 A023 A024 A025 A026 A027 A028
  A029 A030 A031 A032 A032A A033 A034 A035 A036 A037 A038 A039 A040 A040A A041 A042 A042A A043
  A043A A044 A045 A045A A046 A047 A048 A049 A050 A051 A052 A053 A054 A055 A056 A057 A058 A059 A060
  A061 A062 A063 A064 A065 A066 A067 A068 A069 A070 B001 B002 B003 B004 B005 B005A B006 B007 B008
  B009 C001 C002 C002A C002B C002C C003 C004 C005 C006 C007 C008 C009 C010 C010A C011 C012 C013
  C014 C015 C016 C017 C018 C019 C020 C021 C022 C023 C024 D001 D002 D003 D004 D005 D006 D007 D008
  D008A D009 D010 D011 D012 D013 D014 D015 D016 D017 D018 D019 D020 D021 D022 D023 D024 D025 D026
  D027 D027A D028 D029 D030 D031 D031A D032 D033 D034 D034A D035 D036 D037 D038 D039 D040 D041 D042
  D043 D044 D045 D046 D046A D047 D048 D048A D049 D050 D050A D050B D050C D050D D050E D050F D050G
  D050H D050I D051 D052 D052A D053 D054 D054A D055 D056 D057 D058 D059 D060 D061 D062 D063 D064
  D065 D066 D067 D067A D067B D067C D067D D067E D067F D067G D067H E001 E002 E003 E004 E005 E006 E007
  E008 E008A E009 E009A E010 E011 E012 E013 E014 E015 E016 E016A E017 E017A E018 E019 E020 E020A
  E021 E022 E023 E024 E025 E026 E027 E028 E028A E029 E030 E031 E032 E033 E034 E034A E036 E037 E038
  F001 F001A F002 F003 F004 F005 F006 F007 F008 F009 F010 F011 F012 F013 F013A F014 F015 F016 F017
  F018 F019 F020 F021 F021A F022 F023 F024 F025 F026 F027 F028 F029 F030 F031 F031A F032 F033 F034
  F035 F036 F037 F037A F038 F038A F039 F040 F041 F042 F043 F044 F045 F045A F046 F046A F047 F047A
  F048 F049 F050 F051 F051A F051B F051C F052 F053 G001 G002 G003 G004 G005 G006 G006A G007 G007A
  G007B G008 G009 G010 G011 G011A G012 G013 G014 G015 G016 G017 G018 G019 G020 G020A G021 G022 G023
  G024 G025 G026 G026A G027 G028 G029 G030 G031 G032 G033 G034 G035 G036 G036A G037 G037A G038 G039
  G040 G041 G042 G043 G043A G044 G045 G045A G046 G047 G048 G049 G050 G051 G052 G053 G054 H001 H002
  H003 H004 H005 H006 H006A H007 H008 I001 I002 I003 I004 I005 I005A I006 I007 I008 I009 I009A I010
  I010A I011 I011A I012 I013 I014 I015 K001 K002 K003 K004 K005 K006 K007 K008 L001 L002 L002A L003
  L004 L005 L006 L006A L007 L008 M001 M001A M001B M002 M003 M003A M004 M005 M006 M007 M008 M009
  M010 M010A M011 M012 M012A M012B M012C M012D M012E M012F M012G M012H M013 M014 M015 M015A M016
  M016A M017 M017A M018 M019 M020 M021 M022 M022A M023 M024 M024A M025 M026 M027 M028 M028A M029
  M030 M031 M031A M032 M033 M033A M033B M034 M035 M036 M037 M038 M039 M040 M040A M041 M042 M043
  M044 N001 N002 N003 N004 N005 N006 N007 N008 N009 N010 N011 N012 N013 N014 N015 N016 N017 N018
  N018A N018B N019 N020 N021 N022 N023 N024 N025 N025A N026 N027 N028 N029 N030 N031 N032 N033
  N033A N034 N034A N035 N035A N036 N037 N037A N038 N039 N040 N041 N042 NL001 NL002 NL003 NL004
  NL005 NL005A NL006 NL007 NL008 NL009 NL010 NL011 NL012 NL013 NL014 NL015 NL016 NL017 NL017A NL018
  NL019 NL020 NU001 NU002 NU003 NU004 NU005 NU006 NU007 NU008 NU009 NU010 NU010A NU011 NU011A NU012
  NU013 NU014 NU015 NU016 NU017 NU018 NU018A NU019 NU020 NU021 NU022 NU022A O001 O001A O002 O003
  O004 O005 O005A O006 O006A O006B O006C O006D O006E O006F O007 O008 O009 O010 O010A O010B O010C
  O011 O012 O013 O014 O015 O016 O017 O018 O019 O019A O020 O020A O021 O022 O023 O024 O024A O025
  O025A O026 O027 O028 O029 O029A O030 O030A O031 O032 O033 O033A O034 O035 O036 O036A O036B O036C
  O036D O037 O038 O039 O040 O041 O042 O043 O044 O045 O046 O047 O048 O049 O050 O050A O050B O051 P001
  P001A P002 P003 P003A P004 P005 P006 P007 P008 P009 P010 P011 Q001 Q002 Q003 Q004 Q005 Q006 Q007
  R001 R002 R002A R003 R003A R003B R004 R005 R006 R007 R008 R009 R010 R010A R011 R012 R013 R014
  R015 R016 R016A R017 R018 R019 R020 R021 R022 R023 R024 R025 R026 R027 R028 R029 S001 S002 S002A
  S003 S004 S005 S006 S006A S007 S008 S009 S010 S011 S012 S013 S014 S014A S014B S015 S016 S017
  S017A S018 S019 S020 S021 S022 S023 S024 S025 S026 S026A S026B S027 S028 S029 S030 S031 S032 S033
  S034 S035 S035A S036 S037 S038 S039 S040 S041 S042 S043 S044 S045 S046 T001 T002 T003 T003A T004
  T005 T006 T007 T007A T008 T008A T009 T009A T010 T011 T011A T012 T013 T014 T015 T016 T016A T017
  T018 T019 T020 T021 T022 T023 T024 T025 T026 T027 T028 T029 T030 T031 T032 T032A T033 T033A T034
  T035 T036 U001 U002 U003 U004 U005 U006 U006A U006B U007 U008 U009 U010 U011 U012 U013 U014 U015
  U016 U017 U018 U019 U020 U021 U022 U023 U023A U024 U025 U026 U027 U028 U029 U029A U030 U031 U032
  U032A U033 U034 U035 U036 U037 U038 U039 U040 U041 U042 V001 V001A V001B V001C V001D V001E V001F
  V001G V001H V001I V002 V002A V003 V004 V005 V006 V007 V007A V007B V008 V009 V010 V011 V011A V011B
  V011C V012 V012A V012B V013 V014 V015 V016 V017 V018 V019 V020 V020A V020B V020C V020D V020E
  V020F V020G V020H V020I V020J V020K V020L V021 V022 V023 V023A V024 V025 V026 V027 V028 V028A
  V029 V029A V030 V030A V031 V031A V032 V033 V033A V034 V035 V036 V037 V037A V038 V039 V040 V040A
  W001 W002 W003 W003A W004 W005 W006 W007 W008 W009 W009A W010 W010A W011 W012 W013 W014 W014A
  W015 W016 W017 W017A W018 W018A W019 W020 W021 W022 W023 W024 W024A W025 X001 X002 X003 X004
  X004A X004B X005 X006 X006A X007 X008 X008A Y001 Y001A Y002 Y003 Y004 Y005 Y006 Y007 Y008 Z001
  Z002 Z002A Z002B Z002C Z002D Z003 Z003A Z003B Z004 Z004A Z005 Z005A Z006 Z007 Z008 Z009 Z010 Z011
  Z012 Z013 Z014 Z015 Z015A Z015B Z015C Z015D Z015E Z015F Z015G Z015H Z015I Z016 Z016A Z016B Z016C
  Z016D Z016E Z016F Z016G Z016H AA001 AA002 AA003 AA004 AA005 AA006 AA007 AA007A AA007B AA008 AA009
  AA010 AA011 AA012 AA013 AA014 AA015 AA016 AA017 AA018 AA019 AA020 AA021 AA022 AA023 AA024 AA025
  AA026 AA027 AA028 AA029 AA030 AA031 AA032 @13430 VERTICAL_JOINER HORIZONTAL_JOINER
  INSERT_AT_TOP_START INSERT_AT_BOTTOM_START INSERT_AT_TOP_END INSERT_AT_BOTTOM_END OVERLAY_MIDDLE
  BEGIN_SEGMENT END_SEGMENT
"

end EntityScaffold.Text.CharacterName
