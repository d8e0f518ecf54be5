/-
Names of characters of syllabic and further scripts, U+1400 to U+1FFF.
-/

namespace EntityScaffold.Text.CharacterName

def syllableNames : String := "
  @1400 CANADIAN_SYLLABICS_: HYPHEN E AAI I II O OO Y-CREE_OO CARRIER_EE CARRIER_I A AA WE
  WEST-CREE_WE WI WEST-CREE_WI WII WEST-CREE_WII WO WEST-CREE_WO WOO WEST-CREE_WOO NASKAPI_WOO WA
  WEST-CREE_WA WAA WEST-CREE_WAA NASKAPI_WAA AI Y-CREE_W GLOTTAL_STOP CANADIAN_SYLLABICS_FINAL_:
  ACUTE GRAVE BOTTOM_HALF_RING TOP_HALF_RING RIGHT_HALF_RING RING DOUBLE_ACUTE
  DOUBLE_SHORT_VERTICAL_STROKES MIDDLE_DOT SHORT_HORIZONTAL_STROKE PLUS DOWN_TACK
  CANADIAN_SYLLABICS_: EN IN ON AN PE PAAI PI PII PO POO Y-CREE_POO CARRIER_HEE CARRIER_HI PA PAA
  PWE WEST-CREE_PWE PWI WEST-CREE_PWI PWII WEST-CREE_PWII PWO WEST-CREE_PWO PWOO WEST-CREE_PWOO PWA
  WEST-CREE_PWA PWAA WEST-CREE_PWAA Y-CREE_PWAA P WEST-CREE_P CARRIER_H TE TAAI TI TII TO TOO
  Y-CREE_TOO CARRIER_DEE CARRIER_DI TA TAA TWE WEST-CREE_TWE TWI WEST-CREE_TWI TWII WEST-CREE_TWII
  TWO WEST-CREE_TWO TWOO WEST-CREE_TWOO TWA WEST-CREE_TWA TWAA WEST-CREE_TWAA NASKAPI_TWAA T TTE
  TTI TTO TTA KE KAAI KI KII KO KOO Y-CREE_KOO KA KAA KWE WEST-CREE_KWE KWI WEST-CREE_KWI KWII
  WEST-CREE_KWII KWO WEST-CREE_KWO KWOO WEST-CREE_KWOO KWA WEST-CREE_KWA KWAA WEST-CREE_KWAA
  NASKAPI_KWAA K KW SOUTH-SLAVEY_KEH SOUTH-SLAVEY_KIH SOUTH-SLAVEY_KOH SOUTH-SLAVEY_KAH CE CAAI CI
  CII CO COO Y-CREE_COO CA CAA CWE WEST-CREE_CWE CWI WEST-CREE_CWI CWII WEST-CREE_CWII CWO
  WEST-CREE_CWO CWOO WEST-CREE_CWOO CWA WEST-CREE_CWA CWAA WEST-CREE_CWAA NASKAPI_CWAA C SAYISI_TH
  ME MAAI MI MII MO MOO Y-CREE_MOO MA MAA MWE WEST-CREE_MWE MWI WEST-CREE_MWI MWII WEST-CREE_MWII
  MWO WEST-CREE_MWO MWOO WEST-CREE_MWOO MWA WEST-CREE_MWA MWAA WEST-CREE_MWAA NASKAPI_MWAA M
  WEST-CREE_M MH ATHAPASCAN_M SAYISI_M NE NAAI NI NII NO NOO Y-CREE_NOO NA NAA NWE WEST-CREE_NWE
  NWA WEST-CREE_NWA NWAA WEST-CREE_NWAA NASKAPI_NWAA N CARRIER_NG NH LE LAAI LI LII LO LOO
  Y-CREE_LOO LA LAA LWE WEST-CREE_LWE LWI WEST-CREE_LWI LWII WEST-CREE_LWII LWO WEST-CREE_LWO LWOO
  WEST-CREE_LWOO LWA WEST-CREE_LWA LWAA WEST-CREE_LWAA L WEST-CREE_L MEDIAL_L SE SAAI SI SII SO SOO
  Y-CREE_SOO SA SAA SWE WEST-CREE_SWE SWI WEST-CREE_SWI SWII WEST-CREE_SWII SWO WEST-CREE_SWO SWOO
  WEST-CREE_SWOO SWA WEST-CREE_SWA SWAA WEST-CREE_SWAA NASKAPI_SWAA S ATHAPASCAN_S SW BLACKFOOT_S
  MOOSE-CREE_SK NASKAPI_SKW NASKAPI_S-W NASKAPI_SPWA NASKAPI_STWA NASKAPI_SKWA NASKAPI_SCWA SHE SHI
  SHII SHO SHOO SHA SHAA SHWE WEST-CREE_SHWE SHWI WEST-CREE_SHWI SHWII WEST-CREE_SHWII SHWO
  WEST-CREE_SHWO SHWOO WEST-CREE_SHWOO SHWA WEST-CREE_SHWA SHWAA WEST-CREE_SHWAA SH YE YAAI YI YII
  YO YOO Y-CREE_YOO YA YAA YWE WEST-CREE_YWE YWI WEST-CREE_YWI YWII WEST-CREE_YWII YWO
  WEST-CREE_YWO YWOO WEST-CREE_YWOO YWA WEST-CREE_YWA YWAA WEST-CREE_YWAA NASKAPI_YWAA Y
  BIBLE-CREE_Y WEST-CREE_Y SAYISI_YI RE R-CREE_RE WEST-CREE_LE RAAI RI RII RO ROO WEST-CREE_LO RA
  RAA WEST-CREE_LA RWAA WEST-CREE_RWAA R WEST-CREE_R MEDIAL_R FE FAAI FI FII FO FOO FA FAA FWAA
  WEST-CREE_FWAA F THE N-CREE_THE THI N-CREE_THI THII N-CREE_THII THO THOO THA THAA THWAA
  WEST-CREE_THWAA TH TTHE TTHI TTHO TTHA TTH TYE TYI TYO TYA CANADIAN_SYLLABICS_NUNAVIK_: HE HI HII
  HO HOO HA HAA H CANADIAN_SYLLABICS_: NUNAVUT_H HK QAAI QI QII QO QOO QA QAA Q TLHE TLHI TLHO TLHA
  WEST-CREE_RE WEST-CREE_RI WEST-CREE_RO WEST-CREE_RA NGAAI NGI NGII NGO NGOO NGA NGAA NG NNG
  SAYISI_SHE SAYISI_SHI SAYISI_SHO SAYISI_SHA CANADIAN_SYLLABICS_WOODS-CREE_: THE THI THO THA TH
  CANADIAN_SYLLABICS_: LHI LHII LHO LHOO LHA LHAA LH CANADIAN_SYLLABICS_TH-CREE_: THE THI THII THO
  THOO THA THAA TH CANADIAN_SYLLABICS_AIVILIK_: B CANADIAN_SYLLABICS_BLACKFOOT_: E I O A WE WI WO
  WA NE NI NO NA KE KI KO KA CANADIAN_SYLLABICS_SAYISI_: HE HI HO HA CANADIAN_SYLLABICS_CARRIER_:
  GHU GHO GHE GHEE GHI GHA RU RO RE REE RI RA WU WO WE WEE WI WA HWU HWO HWE HWEE HWI HWA THU THO
  THE THEE THI THA TTU TTO TTE TTEE TTI TTA PU PO PE PEE PI PA P GU GO GE GEE GI GA KHU KHO KHE
  KHEE KHI KHA KKU KKO KKE KKEE KKI KKA KK NU NO NE NEE NI NA MU MO ME MEE MI MA YU YO YE YEE YI YA
  JU CANADIAN_SYLLABICS_: SAYISI_JU CARRIER_JO CARRIER_JE CARRIER_JEE CARRIER_JI SAYISI_JI
  CANADIAN_SYLLABICS_CARRIER_: JA JJU JJO JJE JJEE JJI JJA LU LO LE LEE LI LA DLU DLO DLE DLEE DLI
  DLA LHU LHO LHE LHEE LHI LHA TLHU TLHO TLHE TLHEE TLHI TLHA TLU TLO TLE TLEE TLI TLA ZU ZO ZE ZEE
  ZI ZA Z INITIAL_Z DZU DZO DZE DZEE DZI DZA SU SO SE SEE SI SA SHU SHO SHE SHEE SHI SHA SH TSU TSO
  TSE TSEE TSI TSA CHU CHO CHE CHEE CHI CHA TTSU TTSO TTSE TTSEE TTSI TTSA CANADIAN_SYLLABICS_:
  CHI_SIGN FULL_STOP QAI NGAI NNGI NNGII NNGO NNGOO NNGA NNGAA CANADIAN_SYLLABICS_WOODS-CREE_:
  THWEE THWI THWII THWO THWOO THWA THWAA FINAL_TH : CANADIAN_SYLLABICS_BLACKFOOT_W OGHAM_SPACE_MARK
  OGHAM_LETTER_: BEITH LUIS FEARN SAIL NION UATH DAIR TINNE COLL CEIRT MUIN GORT NGEADAL STRAIF
  RUIS AILM ONN UR EADHADH IODHADH EABHADH OR UILLEANN IFIN EAMHANCHOLL PEITH OGHAM_: FEATHER_MARK
  REVERSED_FEATHER_MARK @16A0 RUNIC_LETTER_: FEHU_FEOH_FE_F V URUZ_UR_U YR Y W THURISAZ_THURS_THORN
  ETH ANSUZ_A OS_O AC_A AESC LONG-BRANCH-OSS_O SHORT-TWIG-OSS_O O OE ON RAIDO_RAD_REID_R KAUNA CEN
  KAUN_K G ENG GEBO_GYFU_G GAR WUNJO_WYNN_W HAGLAZ_H HAEGL_H LONG-BRANCH-HAGALL_H
  SHORT-TWIG-HAGALL_H NAUDIZ_NYD_NAUD_N SHORT-TWIG-NAUD_N DOTTED-N ISAZ_IS_ISS_I E JERAN_J GER
  LONG-BRANCH-AR_AE SHORT-TWIG-AR_A IWAZ_EOH PERTHO_PEORTH_P ALGIZ_EOLHX SOWILO_S
  SIGEL_LONG-BRANCH-SOL_S SHORT-TWIG-SOL_S C Z TIWAZ_TIR_TYR_T SHORT-TWIG-TYR_T D
  BERKANAN_BEORC_BJARKAN_B SHORT-TWIG-BJARKAN_B DOTTED-P OPEN-P EHWAZ_EH_E MANNAZ_MAN_M
  LONG-BRANCH-MADR_M SHORT-TWIG-MADR_M LAUKAZ_LAGU_LOGR_L DOTTED-L INGWAZ ING DAGAZ_DAEG_D
  OTHALAN_ETHEL_O EAR IOR CWEORTH CALC CEALC STAN LONG-BRANCH-YR SHORT-TWIG-YR ICELANDIC-YR Q X
  RUNIC_: SINGLE_PUNCTUATION MULTIPLE_PUNCTUATION CROSS_PUNCTUATION ARLAUG_SYMBOL TVIMADUR_SYMBOL
  BELGTHOR_SYMBOL RUNIC_LETTER_: K SH OO RUNIC_LETTER_FRANKS_CASKET_: OS IS EH AC AESC @1700
  TAGALOG_LETTER_: A I U KA GA NGA TA DA NA PA BA MA YA RA LA WA SA HA TAGALOG_VOWEL_SIGN_: I U
  TAGALOG_SIGN_: VIRAMA PAMUDPOD @171F TAGALOG_LETTER_ARCHAIC_: RA HANUNOO_LETTER_: A I U KA GA NGA
  TA DA NA PA BA MA YA RA LA WA SA HA HANUNOO_VOWEL_SIGN_: I U HANUNOO_SIGN_: PAMUDPOD PHILIPPINE_:
  SINGLE_PUNCTUATION DOUBLE_PUNCTUATION @1740 BUHID_LETTER_: A I U KA GA NGA TA DA NA PA BA MA YA
  RA LA WA SA HA BUHID_VOWEL_SIGN_: I U @1760 TAGBANWA_LETTER_: A I U KA GA NGA TA DA NA PA BA MA
  YA @176E LA WA SA @1772 TAGBANWA_VOWEL_SIGN_: I U @1780 KHMER_LETTER_: KA KHA KO KHO NGO CA CHA
  CO CHO NYO DA TTHA DO TTHO NNO TA THA TO THO NO BA PHA PO PHO MO YO RO LO VO SHA SSO SA HA LA QA
  KHMER_INDEPENDENT_VOWEL_: QAQ QAA QI QII QU QUK QUU QUUV RY RYY LY LYY QE QAI QOO_TYPE_ONE
  QOO_TYPE_TWO QAU KHMER_VOWEL_INHERENT_: AQ AA KHMER_VOWEL_SIGN_: AA I II Y YY U UU UA OE YA IE E
  AE AI OO AU KHMER_SIGN_: NIKAHIT REAHMUK YUUKALEAPINTU MUUSIKATOAN TRIISAP BANTOC ROBAT
  TOANDAKHIAT KAKABAT AHSDA SAMYOK_SANNYA VIRIAM COENG BATHAMASAT KHAN BARIYOOSAN CAMNUC_PII_KUUH
  LEK_TOO BEYYAL PHNAEK_MUAN KOOMUUT KHMER_: CURRENCY_SYMBOL_RIEL SIGN_AVAKRAHASANYA SIGN_ATTHACAN
  @17E0 KHMER_DIGIT_: ZERO ONE TWO THREE FOUR FIVE SIX SEVEN EIGHT NINE @17F0
  KHMER_SYMBOL_LEK_ATTAK_: SON MUOY PII BEI BUON PRAM PRAM-MUOY PRAM-PII PRAM-BEI PRAM-BUON @1800
  MONGOLIAN_: BIRGA ELLIPSIS COMMA FULL_STOP COLON FOUR_DOTS TODO_SOFT_HYPHEN
  SIBE_SYLLABLE_BOUNDARY_MARKER MANCHU_COMMA MANCHU_FULL_STOP NIRUGU
  MONGOLIAN_FREE_VARIATION_SELECTOR_: ONE TWO THREE MONGOLIAN_: VOWEL_SEPARATOR
  FREE_VARIATION_SELECTOR_FOUR MONGOLIAN_DIGIT_: ZERO ONE TWO THREE FOUR FIVE SIX SEVEN EIGHT NINE
  @1820 MONGOLIAN_LETTER_: A E I O U OE UE EE NA ANG BA PA QA GA MA LA SA SHA TA DA CHA JA YA RA WA
  FA KA KHA TSA ZA HAA ZRA LHA ZHI CHI MONGOLIAN_LETTER_TODO_: LONG_VOWEL_SIGN E I O U OE UE ANG BA
  PA QA GA MA TA DA CHA JA TSA YA WA KA GAA HAA JIA NIA DZA MONGOLIAN_LETTER_SIBE_: E I IY UE U ANG
  KA GA HA PA SHA TA DA JA FA GAA HAA TSA ZA RAA CHA ZHA MONGOLIAN_LETTER_MANCHU_: I KA RA FA ZHA
  MONGOLIAN_LETTER_CHA_WITH_TWO_: DOTS @1880 MONGOLIAN_LETTER_ALI_GALI_: ANUSVARA_ONE VISARGA_ONE
  DAMARU UBADAMA INVERTED_UBADAMA BALUDA THREE_BALUDA A I KA NGA CA TTA TTHA DDA NNA TA DA PA PHA
  SSA ZHA ZA AH MONGOLIAN_LETTER_TODO_ALI_GALI_: TA ZHA MONGOLIAN_LETTER_MANCHU_ALI_GALI_: GHA NGA
  CA JHA TTA DDHA TA DHA SSA CYA ZHA ZA MONGOLIAN_LETTER_: ALI_GALI_HALF_U ALI_GALI_HALF_YA
  MANCHU_ALI_GALI_BHA ALI_GALI_DAGALGA MANCHU_ALI_GALI_LHA @18B0 CANADIAN_SYLLABICS_: OY AY AAY WAY
  POY PAY PWOY TAY KAY KWAY MAY NOY NAY LAY SOY SAY SHOY SHAY SHWOY YOY YAY RAY NWI OJIBWAY_NWI
  NWII OJIBWAY_NWII NWO OJIBWAY_NWO NWOO OJIBWAY_NWOO RWEE RWI RWII RWO RWOO RWA
  CANADIAN_SYLLABICS_OJIBWAY_: P T K C M N S SH CANADIAN_SYLLABICS_: EASTERN_W WESTERN_W
  FINAL_SMALL_RING FINAL_RAISED_DOT R-CREE_RWE WEST-CREE_LOO WEST-CREE_LAA THWE THWA TTHWE TTHOO
  TTHAA TLHWE TLHOO SAYISI_SHWE SAYISI_SHOO SAYISI_HOO CARRIER_GWU CARRIER_DENE_GEE CARRIER_GAA
  CARRIER_GWA SAYISI_JUU CARRIER_JWA BEAVER_DENE_L BEAVER_DENE_R CARRIER_DENTAL_S @1900
  LIMBU_VOWEL-CARRIER_: LETTER LIMBU_LETTER_: KA KHA GA GHA NGA CA CHA JA JHA YAN TA THA DA DHA NA
  PA PHA BA BHA MA YA RA LA WA SHA SSA SA HA GYAN TRA @1920 LIMBU_VOWEL_SIGN_: A I U EE AI OO AU E
  O LIMBU_SUBJOINED_LETTER_: YA RA WA @1930 LIMBU_SMALL_LETTER_: KA NGA ANUSVARA TA NA PA MA RA LA
  LIMBU_SIGN_: MUKPHRENG KEMPHRENG SA-I @1940 LOO @1944 LIMBU_: EXCLAMATION_MARK QUESTION_MARK
  LIMBU_DIGIT_: ZERO ONE TWO THREE FOUR FIVE SIX SEVEN EIGHT NINE TAI_LE_LETTER_: KA XA NGA TSA SA
  YA TA THA LA PA PHA MA FA VA HA QA KHA TSHA NA A I EE EH U OO O UE E AUE AI @1970
  TAI_LE_LETTER_TONE-: 2 3 4 5 6 @1980 NEW_TAI_LUE_LETTER_: HIGH_QA LOW_QA HIGH_KA HIGH_XA HIGH_NGA
  LOW_KA LOW_XA LOW_NGA HIGH_TSA HIGH_SA HIGH_YA LOW_TSA LOW_SA LOW_YA HIGH_TA HIGH_THA HIGH_NA
  LOW_TA LOW_THA LOW_NA HIGH_PA HIGH_PHA HIGH_MA LOW_PA LOW_PHA LOW_MA HIGH_FA HIGH_VA HIGH_LA
  LOW_FA LOW_VA LOW_LA HIGH_HA HIGH_DA HIGH_BA LOW_HA LOW_DA LOW_BA HIGH_KVA HIGH_XVA LOW_KVA
  LOW_XVA HIGH_SUA LOW_SUA @19B0 NEW_TAI_LUE_VOWEL_SIGN_: VOWEL_SHORTENER AA II U UU E AE O OA UE
  AY AAY UY OY OAY UEY IY NEW_TAI_LUE_LETTER_FINAL_: V NG N M K D B NEW_TAI_LUE_TONE_MARK-: 1 2
  @19D0 NEW_TAI_LUE_DIGIT_: ZERO ONE TWO THREE FOUR FIVE SIX SEVEN EIGHT NINE
  NEW_TAI_LUE_THAM_DIGIT_: ONE @19DE NEW_TAI_LUE_SIGN_: LAE LAEV KHMER_SYMBOL_: PATHAMASAT
  MUOY_KOET PII_KOET BEI_KOET BUON_KOET PRAM_KOET PRAM-MUOY_KOET PRAM-PII_KOET PRAM-BEI_KOET
  PRAM-BUON_KOET DAP_KOET DAP-MUOY_KOET DAP-PII_KOET DAP-BEI_KOET DAP-BUON_KOET DAP-PRAM_KOET
  TUTEYASAT MUOY_ROC PII_ROC BEI_ROC BUON_ROC PRAM_ROC PRAM-MUOY_ROC PRAM-PII_ROC PRAM-BEI_ROC
  PRAM-BUON_ROC DAP_ROC KHMER_SYMBOL_DAP-: MUOY_ROC PII_ROC BEI_ROC BUON_ROC PRAM_ROC
  BUGINESE_LETTER_: KA GA NGA NGKA PA BA MA MPA TA DA NA NRA CA JA NYA NYCA YA RA LA VA SA A HA
  BUGINESE_VOWEL_SIGN_: I U E O AE @1A1E BUGINESE_: PALLAWA END_OF_SECTION TAI_THAM_LETTER_:
  HIGH_KA HIGH_KHA HIGH_KXA LOW_KA LOW_KXA LOW_KHA NGA HIGH_CA HIGH_CHA LOW_CA LOW_SA LOW_CHA NYA
  RATA HIGH_RATHA DA LOW_RATHA RANA HIGH_TA HIGH_THA LOW_TA LOW_THA NA BA HIGH_PA HIGH_PHA HIGH_FA
  LOW_PA LOW_FA LOW_PHA MA LOW_YA HIGH_YA RA RUE LA LUE WA HIGH_SHA HIGH_SSA HIGH_SA HIGH_HA LLA A
  LOW_HA I II U UU EE OO LAE GREAT_SA TAI_THAM_CONSONANT_SIGN_: MEDIAL_RA MEDIAL_LA LA_TANG_LAI
  TAI_THAM_SIGN_MAI_KANG_: LAI TAI_THAM_CONSONANT_SIGN_: FINAL_NGA LOW_PA HIGH_RATHA_OR_LOW_PA MA
  BA SA @1A60 TAI_THAM_SIGN_: SAKOT TAI_THAM_VOWEL_SIGN_: A MAI_SAT AA TALL_AA I II UE UUE U UU O
  OA_BELOW OY E AE OO AI THAM_AI OA_ABOVE TAI_THAM_SIGN_: MAI_KANG TONE-1 TONE-2 KHUEN_TONE-3
  KHUEN_TONE-4 KHUEN_TONE-5 RA_HAAM MAI_SAM KHUEN-LUE_KARAN @1A7F
  TAI_THAM_COMBINING_CRYPTOGRAMMIC_: DOT TAI_THAM_HORA_DIGIT_: ZERO ONE TWO THREE FOUR FIVE SIX
  SEVEN EIGHT NINE @1A90 TAI_THAM_THAM_DIGIT_: ZERO ONE TWO THREE FOUR FIVE SIX SEVEN EIGHT NINE
  @1AA0 TAI_THAM_SIGN_: WIANG WIANGWAAK SAWAN KEOW HOY DOKMAI REVERSED_ROTATED_RANA MAI_YAMOK KAAN
  KAANKUU SATKAAN SATKAANKUU HANG CAANG @1AB0 COMBINING_: DOUBLED_CIRCUMFLEX_ACCENT DIAERESIS-RING
  INFINITY DOWNWARDS_ARROW TRIPLE_DOT X-X_BELOW WIGGLY_LINE_BELOW OPEN_MARK_BELOW
  DOUBLE_OPEN_MARK_BELOW LIGHT_CENTRALIZATION_STROKE_BELOW STRONG_CENTRALIZATION_STROKE_BELOW
  PARENTHESES_ABOVE DOUBLE_PARENTHESES_ABOVE PARENTHESES_BELOW PARENTHESES_OVERLAY
  LATIN_SMALL_LETTER_W_BELOW LATIN_SMALL_LETTER_TURNED_W_BELOW LEFT_PARENTHESIS_ABOVE_LEFT
  RIGHT_PARENTHESIS_ABOVE_RIGHT LEFT_PARENTHESIS_BELOW_LEFT RIGHT_PARENTHESIS_BELOW_RIGHT
  SQUARE_BRACKETS_ABOVE NUMBER_SIGN_ABOVE INVERTED_DOUBLE_ARCH_ABOVE PLUS_SIGN_ABOVE
  DOUBLE_PLUS_SIGN_ABOVE DOUBLE_PLUS_SIGN_BELOW TRIPLE_ACUTE_ACCENT
  COMBINING_LATIN_SMALL_LETTER_INSULAR_: G R T @1B00 BALINESE_SIGN_: ULU_RICEM ULU_CANDRA CECEK
  SURANG BISAH BALINESE_LETTER_: AKARA AKARA_TEDUNG IKARA IKARA_TEDUNG UKARA UKARA_TEDUNG RA_REPA
  RA_REPA_TEDUNG LA_LENGA LA_LENGA_TEDUNG EKARA AIKARA OKARA OKARA_TEDUNG KA KA_MAHAPRANA GA
  GA_GORA NGA CA CA_LACA JA JA_JERA NYA TA_LATIK TA_MURDA_MAHAPRANA DA_MURDA_ALPAPRANA
  DA_MURDA_MAHAPRANA NA_RAMBAT TA TA_TAWA DA DA_MADU NA PA PA_KAPAL BA BA_KEMBANG MA YA RA LA WA
  SA_SAGA SA_SAPA SA HA BALINESE_SIGN_: REREKAN BALINESE_VOWEL_SIGN_: TEDUNG ULU ULU_SARI SUKU
  SUKU_ILUT RA_REPA RA_REPA_TEDUNG LA_LENGA LA_LENGA_TEDUNG TALING TALING_REPA TALING_TEDUNG
  TALING_REPA_TEDUNG PEPET PEPET_TEDUNG BALINESE_ADEG_: ADEG BALINESE_LETTER_: KAF_SASAK KHOT_SASAK
  TZIR_SASAK EF_SASAK VE_SASAK ZAL_SASAK ASYURA_SASAK ARCHAIC_JNYA @1B50 BALINESE_DIGIT_: ZERO ONE
  TWO THREE FOUR FIVE SIX SEVEN EIGHT NINE BALINESE_: PANTI PAMADA WINDU CARIK_PAMUNGKAH CARIK_SIKI
  CARIK_PAREREN PAMENENG BALINESE_MUSICAL_SYMBOL_: DONG DENG DUNG DANG DANG_SURANG DING DAENG DEUNG
  DAING DANG_GEDE BALINESE_MUSICAL_SYMBOL_COMBINING_: TEGEH ENDEP KEMPUL KEMPLI JEGOGAN
  KEMPUL_WITH_JEGOGAN KEMPLI_WITH_JEGOGAN BENDE GONG BALINESE_MUSICAL_SYMBOL_RIGHT-HAND_: OPEN_DUG
  OPEN_DAG CLOSED_TUK CLOSED_TAK BALINESE_MUSICAL_SYMBOL_LEFT-HAND_: OPEN_PANG OPEN_PUNG
  CLOSED_PLAK CLOSED_PLUK OPEN_PING BALINESE_: PANTI_LANTANG PAMADA_LANTANG @1B80 SUNDANESE_SIGN_:
  PANYECEK PANGLAYAR PANGWISAD SUNDANESE_LETTER_: A I U AE O E EU KA QA GA NGA CA JA ZA NYA TA DA
  NA PA FA VA BA MA YA RA LA WA SA XA HA SUNDANESE_CONSONANT_SIGN_: PAMINGKAL PANYAKRA PANYIKU
  SUNDANESE_VOWEL_SIGN_: PANGHULU PANYUKU PANAELAENG PANOLONG PAMEPET PANEULEUNG SUNDANESE_SIGN_:
  PAMAAEH VIRAMA SUNDANESE_CONSONANT_SIGN_PASANGAN_: MA WA SUNDANESE_LETTER_: KHA SYA
  SUNDANESE_DIGIT_: ZERO ONE TWO THREE FOUR FIVE SIX SEVEN EIGHT NINE SUNDANESE_: AVAGRAHA
  SUNDANESE_LETTER_: REU LEU BHA FINAL_K FINAL_M BATAK_LETTER_: A SIMALUNGUN_A HA SIMALUNGUN_HA
  MANDAILING_HA BA KARO_BA PA SIMALUNGUN_PA NA MANDAILING_NA WA SIMALUNGUN_WA PAKPAK_WA GA
  SIMALUNGUN_GA JA DA RA SIMALUNGUN_RA MA SIMALUNGUN_MA SOUTHERN_TA NORTHERN_TA SA SIMALUNGUN_SA
  MANDAILING_SA YA SIMALUNGUN_YA NGA LA SIMALUNGUN_LA NYA CA NDA MBA I U BATAK_SIGN_: TOMPI
  BATAK_VOWEL_SIGN_: E PAKPAK_E EE I KARO_I O KARO_O U U_FOR_SIMALUNGUN_SA BATAK_CONSONANT_SIGN_:
  NG H BATAK_: PANGOLAT PANONGONAN @1BFC BATAK_SYMBOL_BINDU_: NA_METEK PINARBORAS JUDUL PANGOLAT
  LEPCHA_LETTER_: KA KLA KHA GA GLA NGA CA CHA JA NYA TA THA DA NA PA PLA PHA FA FLA BA BLA MA MLA
  TSA TSHA DZA YA RA LA HA HLA VA SA SHA WA A LEPCHA_SUBJOINED_LETTER_: YA RA LEPCHA_VOWEL_SIGN_:
  AA I O OO U UU E LEPCHA_CONSONANT_SIGN_: K M L N P R T NYIN-DO KANG LEPCHA_SIGN_: RAN NUKTA @1C3B
  LEPCHA_PUNCTUATION_: TA-ROL NYET_THYOOM_TA-ROL CER-WA TSHOOK_CER-WA TSHOOK LEPCHA_DIGIT_: ZERO
  ONE TWO THREE FOUR FIVE SIX SEVEN EIGHT NINE @1C4D LEPCHA_LETTER_: TTA TTHA DDA OL_CHIKI_DIGIT_:
  ZERO ONE TWO THREE FOUR FIVE SIX SEVEN EIGHT NINE OL_CHIKI_LETTER_: LA AT AG ANG AL LAA AAK AAJ
  AAM AAW LI IS IH INY IR LU UC UD UNN UY LE EP EDD EN ERR LO OTT OB OV OH OL_CHIKI_: MU_TTUDDAG
  GAAHLAA_TTUDDAAG MU-GAAHLAA_TTUDDAAG RELAA PHAARKAA AHAD OL_CHIKI_PUNCTUATION_: MUCAAD
  DOUBLE_MUCAAD CYRILLIC_SMALL_LETTER_: ROUNDED_VE LONG-LEGGED_DE NARROW_O WIDE_ES TALL_TE
  THREE-LEGGED_TE TALL_HARD_SIGN TALL_YAT UNBLENDED_UK @1C90 GEORGIAN_MTAVRULI_CAPITAL_LETTER_: AN
  BAN GAN DON EN VIN ZEN TAN IN KAN LAS MAN NAR ON PAR ZHAR RAE SAN TAR UN PHAR KHAR GHAN QAR SHIN
  CHIN CAN JIL CIL CHAR XAN JHAN HAE HE HIE WE HAR HOE FI YN ELIFI TURNED_GAN AIN @1CBD AEN
  HARD_SIGN LABIAL_SIGN SUNDANESE_PUNCTUATION_BINDU_: SURYA PANGLONG PURNAMA CAKRA LEU_SATANGA
  KA_SATANGA DA_SATANGA BA_SATANGA @1CD0 VEDIC_TONE_: KARSHANA SHARA PRENKHA VEDIC_SIGN_: NIHSHVASA
  YAJURVEDIC_MIDLINE_SVARITA VEDIC_TONE_YAJURVEDIC_: AGGRAVATED_INDEPENDENT_SVARITA
  INDEPENDENT_SVARITA KATHAKA_INDEPENDENT_SVARITA VEDIC_TONE_: CANDRA_BELOW
  YAJURVEDIC_KATHAKA_INDEPENDENT_SVARITA_SCHROEDER DOUBLE_SVARITA TRIPLE_SVARITA KATHAKA_ANUDATTA
  DOT_BELOW TWO_DOTS_BELOW THREE_DOTS_BELOW RIGVEDIC_KASHMIRI_INDEPENDENT_SVARITA
  ATHARVAVEDIC_INDEPENDENT_SVARITA VEDIC_SIGN_: VISARGA_SVARITA VISARGA_UDATTA
  REVERSED_VISARGA_UDATTA VISARGA_ANUDATTA REVERSED_VISARGA_ANUDATTA VISARGA_UDATTA_WITH_TAIL
  VISARGA_ANUDATTA_WITH_TAIL VEDIC_SIGN_ANUSVARA_: ANTARGOMUKHA BAHIRGOMUKHA VAMAGOMUKHA
  VAMAGOMUKHA_WITH_TAIL VEDIC_SIGN_: TIRYAK HEXIFORM_LONG_ANUSVARA LONG_ANUSVARA
  RTHANG_LONG_ANUSVARA ANUSVARA_UBHAYATO_MUKHA ARDHAVISARGA ROTATED_ARDHAVISARGA VEDIC_:
  TONE_CANDRA_ABOVE SIGN_JIHVAMULIYA SIGN_UPADHMANIYA SIGN_ATIKRAMA TONE_RING_ABOVE
  TONE_DOUBLE_RING_ABOVE SIGN_DOUBLE_ANUSVARA_ANTARGOMUKHA @1D00 LATIN_LETTER_SMALL_CAPITAL_: A AE
  LATIN_SMALL_LETTER_TURNED_: AE LATIN_LETTER_SMALL_CAPITAL_: BARRED_B C D ETH E
  LATIN_SMALL_LETTER_TURNED_: OPEN_E I LATIN_LETTER_SMALL_CAPITAL_: J K L_WITH_STROKE M REVERSED_N
  O OPEN_O LATIN_SMALL_LETTER_SIDEWAYS_: O OPEN_O O_WITH_STROKE LATIN_: SMALL_LETTER_TURNED_OE
  LETTER_SMALL_CAPITAL_OU LATIN_SMALL_LETTER_: TOP_HALF_O BOTTOM_HALF_O
  LATIN_LETTER_SMALL_CAPITAL_: P REVERSED_R TURNED_R T U LATIN_SMALL_LETTER_SIDEWAYS_: U
  DIAERESIZED_U TURNED_M LATIN_LETTER_SMALL_CAPITAL_: V W Z EZH LATIN_LETTER_:
  VOICED_LARYNGEAL_SPIRANT AIN GREEK_LETTER_SMALL_CAPITAL_: GAMMA LAMDA PI RHO PSI
  CYRILLIC_LETTER_SMALL_CAPITAL_: EL MODIFIER_LETTER_CAPITAL_: A AE B BARRED_B D E REVERSED_E G H I
  J K L M N REVERSED_N O OU P R T U W MODIFIER_LETTER_SMALL_: A TURNED_A ALPHA TURNED_AE B D E
  SCHWA OPEN_E TURNED_OPEN_E G TURNED_I K M ENG O OPEN_O TOP_HALF_O BOTTOM_HALF_O P T U SIDEWAYS_U
  TURNED_M V AIN BETA GREEK_GAMMA DELTA GREEK_PHI CHI LATIN_SUBSCRIPT_SMALL_LETTER_: I R U V
  GREEK_SUBSCRIPT_SMALL_LETTER_: BETA GAMMA RHO PHI CHI LATIN_SMALL_LETTER_: UE B_WITH_MIDDLE_TILDE
  D_WITH_MIDDLE_TILDE F_WITH_MIDDLE_TILDE M_WITH_MIDDLE_TILDE N_WITH_MIDDLE_TILDE
  P_WITH_MIDDLE_TILDE R_WITH_MIDDLE_TILDE R_WITH_FISHHOOK_AND_MIDDLE_TILDE S_WITH_MIDDLE_TILDE
  T_WITH_MIDDLE_TILDE Z_WITH_MIDDLE_TILDE TURNED_G MODIFIER_LETTER_CYRILLIC_: EN LATIN_SMALL_:
  LETTER_INSULAR_G LETTER_TH_WITH_STRIKETHROUGH CAPITAL_LETTER_I_WITH_STROKE
  LETTER_IOTA_WITH_STROKE LETTER_P_WITH_STROKE CAPITAL_LETTER_U_WITH_STROKE LATIN_SMALL_LETTER_:
  UPSILON_WITH_STROKE B_WITH_PALATAL_HOOK D_WITH_PALATAL_HOOK F_WITH_PALATAL_HOOK
  G_WITH_PALATAL_HOOK K_WITH_PALATAL_HOOK L_WITH_PALATAL_HOOK M_WITH_PALATAL_HOOK
  N_WITH_PALATAL_HOOK P_WITH_PALATAL_HOOK R_WITH_PALATAL_HOOK S_WITH_PALATAL_HOOK
  ESH_WITH_PALATAL_HOOK V_WITH_PALATAL_HOOK X_WITH_PALATAL_HOOK Z_WITH_PALATAL_HOOK
  A_WITH_RETROFLEX_HOOK ALPHA_WITH_RETROFLEX_HOOK D_WITH_HOOK_AND_TAIL E_WITH_RETROFLEX_HOOK
  OPEN_E_WITH_RETROFLEX_HOOK REVERSED_OPEN_E_WITH_RETROFLEX_HOOK SCHWA_WITH_RETROFLEX_HOOK
  I_WITH_RETROFLEX_HOOK OPEN_O_WITH_RETROFLEX_HOOK ESH_WITH_RETROFLEX_HOOK U_WITH_RETROFLEX_HOOK
  EZH_WITH_RETROFLEX_HOOK MODIFIER_LETTER_SMALL_: TURNED_ALPHA C C_WITH_CURL ETH REVERSED_OPEN_E F
  DOTLESS_J_WITH_STROKE SCRIPT_G TURNED_H I_WITH_STROKE IOTA CAPITAL_I CAPITAL_I_WITH_STROKE
  J_WITH_CROSSED-TAIL L_WITH_RETROFLEX_HOOK L_WITH_PALATAL_HOOK CAPITAL_L M_WITH_HOOK
  TURNED_M_WITH_LONG_LEG N_WITH_LEFT_HOOK N_WITH_RETROFLEX_HOOK CAPITAL_N BARRED_O PHI S_WITH_HOOK
  ESH T_WITH_PALATAL_HOOK U_BAR UPSILON CAPITAL_U V_WITH_HOOK TURNED_V Z Z_WITH_RETROFLEX_HOOK
  Z_WITH_CURL EZH THETA COMBINING_: DOTTED_GRAVE_ACCENT DOTTED_ACUTE_ACCENT SNAKE_BELOW
  SUSPENSION_MARK MACRON-ACUTE GRAVE-MACRON MACRON-GRAVE ACUTE-MACRON GRAVE-ACUTE-GRAVE
  ACUTE-GRAVE-ACUTE LATIN_SMALL_LETTER_R_BELOW BREVE-MACRON MACRON-BREVE DOUBLE_CIRCUMFLEX_ABOVE
  OGONEK_ABOVE ZIGZAG_BELOW IS_BELOW UR_ABOVE US_ABOVE COMBINING_LATIN_SMALL_LETTER_:
  FLATTENED_OPEN_A_ABOVE AE AO AV C_CEDILLA INSULAR_D ETH G COMBINING_LATIN_:
  LETTER_SMALL_CAPITAL_G SMALL_LETTER_K SMALL_LETTER_L LETTER_SMALL_CAPITAL_L
  LETTER_SMALL_CAPITAL_M SMALL_LETTER_N COMBINING_LATIN_LETTER_SMALL_CAPITAL_: N R
  COMBINING_LATIN_SMALL_LETTER_: R_ROTUNDA S LONG_S Z ALPHA B BETA SCHWA F
  L_WITH_DOUBLE_MIDDLE_TILDE O_WITH_LIGHT_CENTRALIZATION_STROKE P ESH
  U_WITH_LIGHT_CENTRALIZATION_STROKE W A_WITH_DIAERESIS O_WITH_DIAERESIS U_WITH_DIAERESIS
  COMBINING_: UP_TACK_ABOVE KAVYKA_ABOVE_RIGHT KAVYKA_ABOVE_LEFT DOT_ABOVE_LEFT
  WIDE_INVERTED_BRIDGE_BELOW DOT_BELOW_LEFT DELETION_MARK DOUBLE_INVERTED_BREVE_BELOW
  ALMOST_EQUAL_TO_BELOW LEFT_ARROWHEAD_ABOVE RIGHT_ARROWHEAD_AND_DOWN_ARROWHEAD_BELOW LATIN_:
  CAPITAL_LETTER_A_WITH_RING_BELOW SMALL_LETTER_A_WITH_RING_BELOW CAPITAL_LETTER_B_WITH_DOT_ABOVE
  SMALL_LETTER_B_WITH_DOT_ABOVE CAPITAL_LETTER_B_WITH_DOT_BELOW SMALL_LETTER_B_WITH_DOT_BELOW
  CAPITAL_LETTER_B_WITH_LINE_BELOW SMALL_LETTER_B_WITH_LINE_BELOW
  CAPITAL_LETTER_C_WITH_CEDILLA_AND_ACUTE SMALL_LETTER_C_WITH_CEDILLA_AND_ACUTE
  CAPITAL_LETTER_D_WITH_DOT_ABOVE SMALL_LETTER_D_WITH_DOT_ABOVE CAPITAL_LETTER_D_WITH_DOT_BELOW
  SMALL_LETTER_D_WITH_DOT_BELOW CAPITAL_LETTER_D_WITH_LINE_BELOW SMALL_LETTER_D_WITH_LINE_BELOW
  CAPITAL_LETTER_D_WITH_CEDILLA SMALL_LETTER_D_WITH_CEDILLA CAPITAL_LETTER_D_WITH_CIRCUMFLEX_BELOW
  SMALL_LETTER_D_WITH_CIRCUMFLEX_BELOW CAPITAL_LETTER_E_WITH_MACRON_AND_GRAVE
  SMALL_LETTER_E_WITH_MACRON_AND_GRAVE CAPITAL_LETTER_E_WITH_MACRON_AND_ACUTE
  SMALL_LETTER_E_WITH_MACRON_AND_ACUTE CAPITAL_LETTER_E_WITH_CIRCUMFLEX_BELOW
  SMALL_LETTER_E_WITH_CIRCUMFLEX_BELOW CAPITAL_LETTER_E_WITH_TILDE_BELOW
  SMALL_LETTER_E_WITH_TILDE_BELOW CAPITAL_LETTER_E_WITH_CEDILLA_AND_BREVE
  SMALL_LETTER_E_WITH_CEDILLA_AND_BREVE CAPITAL_LETTER_F_WITH_DOT_ABOVE
  SMALL_LETTER_F_WITH_DOT_ABOVE CAPITAL_LETTER_G_WITH_MACRON SMALL_LETTER_G_WITH_MACRON
  CAPITAL_LETTER_H_WITH_DOT_ABOVE SMALL_LETTER_H_WITH_DOT_ABOVE CAPITAL_LETTER_H_WITH_DOT_BELOW
  SMALL_LETTER_H_WITH_DOT_BELOW CAPITAL_LETTER_H_WITH_DIAERESIS SMALL_LETTER_H_WITH_DIAERESIS
  CAPITAL_LETTER_H_WITH_CEDILLA SMALL_LETTER_H_WITH_CEDILLA CAPITAL_LETTER_H_WITH_BREVE_BELOW
  SMALL_LETTER_H_WITH_BREVE_BELOW CAPITAL_LETTER_I_WITH_TILDE_BELOW SMALL_LETTER_I_WITH_TILDE_BELOW
  CAPITAL_LETTER_I_WITH_DIAERESIS_AND_ACUTE SMALL_LETTER_I_WITH_DIAERESIS_AND_ACUTE
  CAPITAL_LETTER_K_WITH_ACUTE SMALL_LETTER_K_WITH_ACUTE CAPITAL_LETTER_K_WITH_DOT_BELOW
  SMALL_LETTER_K_WITH_DOT_BELOW CAPITAL_LETTER_K_WITH_LINE_BELOW SMALL_LETTER_K_WITH_LINE_BELOW
  CAPITAL_LETTER_L_WITH_DOT_BELOW SMALL_LETTER_L_WITH_DOT_BELOW
  CAPITAL_LETTER_L_WITH_DOT_BELOW_AND_MACRON SMALL_LETTER_L_WITH_DOT_BELOW_AND_MACRON
  CAPITAL_LETTER_L_WITH_LINE_BELOW SMALL_LETTER_L_WITH_LINE_BELOW
  CAPITAL_LETTER_L_WITH_CIRCUMFLEX_BELOW SMALL_LETTER_L_WITH_CIRCUMFLEX_BELOW
  CAPITAL_LETTER_M_WITH_ACUTE SMALL_LETTER_M_WITH_ACUTE CAPITAL_LETTER_M_WITH_DOT_ABOVE
  SMALL_LETTER_M_WITH_DOT_ABOVE CAPITAL_LETTER_M_WITH_DOT_BELOW SMALL_LETTER_M_WITH_DOT_BELOW
  CAPITAL_LETTER_N_WITH_DOT_ABOVE SMALL_LETTER_N_WITH_DOT_ABOVE CAPITAL_LETTER_N_WITH_DOT_BELOW
  SMALL_LETTER_N_WITH_DOT_BELOW CAPITAL_LETTER_N_WITH_LINE_BELOW SMALL_LETTER_N_WITH_LINE_BELOW
  CAPITAL_LETTER_N_WITH_CIRCUMFLEX_BELOW SMALL_LETTER_N_WITH_CIRCUMFLEX_BELOW
  CAPITAL_LETTER_O_WITH_TILDE_AND_ACUTE SMALL_LETTER_O_WITH_TILDE_AND_ACUTE
  CAPITAL_LETTER_O_WITH_TILDE_AND_DIAERESIS SMALL_LETTER_O_WITH_TILDE_AND_DIAERESIS
  CAPITAL_LETTER_O_WITH_MACRON_AND_GRAVE SMALL_LETTER_O_WITH_MACRON_AND_GRAVE
  CAPITAL_LETTER_O_WITH_MACRON_AND_ACUTE SMALL_LETTER_O_WITH_MACRON_AND_ACUTE
  CAPITAL_LETTER_P_WITH_ACUTE SMALL_LETTER_P_WITH_ACUTE CAPITAL_LETTER_P_WITH_DOT_ABOVE
  SMALL_LETTER_P_WITH_DOT_ABOVE CAPITAL_LETTER_R_WITH_DOT_ABOVE SMALL_LETTER_R_WITH_DOT_ABOVE
  CAPITAL_LETTER_R_WITH_DOT_BELOW SMALL_LETTER_R_WITH_DOT_BELOW
  CAPITAL_LETTER_R_WITH_DOT_BELOW_AND_MACRON SMALL_LETTER_R_WITH_DOT_BELOW_AND_MACRON
  CAPITAL_LETTER_R_WITH_LINE_BELOW SMALL_LETTER_R_WITH_LINE_BELOW CAPITAL_LETTER_S_WITH_DOT_ABOVE
  SMALL_LETTER_S_WITH_DOT_ABOVE CAPITAL_LETTER_S_WITH_DOT_BELOW SMALL_LETTER_S_WITH_DOT_BELOW
  CAPITAL_LETTER_S_WITH_ACUTE_AND_DOT_ABOVE SMALL_LETTER_S_WITH_ACUTE_AND_DOT_ABOVE
  CAPITAL_LETTER_S_WITH_CARON_AND_DOT_ABOVE SMALL_LETTER_S_WITH_CARON_AND_DOT_ABOVE
  CAPITAL_LETTER_S_WITH_DOT_BELOW_AND_DOT_ABOVE SMALL_LETTER_S_WITH_DOT_BELOW_AND_DOT_ABOVE
  CAPITAL_LETTER_T_WITH_DOT_ABOVE SMALL_LETTER_T_WITH_DOT_ABOVE CAPITAL_LETTER_T_WITH_DOT_BELOW
  SMALL_LETTER_T_WITH_DOT_BELOW CAPITAL_LETTER_T_WITH_LINE_BELOW SMALL_LETTER_T_WITH_LINE_BELOW
  CAPITAL_LETTER_T_WITH_CIRCUMFLEX_BELOW SMALL_LETTER_T_WITH_CIRCUMFLEX_BELOW
  CAPITAL_LETTER_U_WITH_DIAERESIS_BELOW SMALL_LETTER_U_WITH_DIAERESIS_BELOW
  CAPITAL_LETTER_U_WITH_TILDE_BELOW SMALL_LETTER_U_WITH_TILDE_BELOW
  CAPITAL_LETTER_U_WITH_CIRCUMFLEX_BELOW SMALL_LETTER_U_WITH_CIRCUMFLEX_BELOW
  CAPITAL_LETTER_U_WITH_TILDE_AND_ACUTE SMALL_LETTER_U_WITH_TILDE_AND_ACUTE
  CAPITAL_LETTER_U_WITH_MACRON_AND_DIAERESIS SMALL_LETTER_U_WITH_MACRON_AND_DIAERESIS
  CAPITAL_LETTER_V_WITH_TILDE SMALL_LETTER_V_WITH_TILDE CAPITAL_LETTER_V_WITH_DOT_BELOW
  SMALL_LETTER_V_WITH_DOT_BELOW CAPITAL_LETTER_W_WITH_GRAVE SMALL_LETTER_W_WITH_GRAVE
  CAPITAL_LETTER_W_WITH_ACUTE SMALL_LETTER_W_WITH_ACUTE CAPITAL_LETTER_W_WITH_DIAERESIS
  SMALL_LETTER_W_WITH_DIAERESIS CAPITAL_LETTER_W_WITH_DOT_ABOVE SMALL_LETTER_W_WITH_DOT_ABOVE
  CAPITAL_LETTER_W_WITH_DOT_BELOW SMALL_LETTER_W_WITH_DOT_BELOW CAPITAL_LETTER_X_WITH_DOT_ABOVE
  SMALL_LETTER_X_WITH_DOT_ABOVE CAPITAL_LETTER_X_WITH_DIAERESIS SMALL_LETTER_X_WITH_DIAERESIS
  CAPITAL_LETTER_Y_WITH_DOT_ABOVE SMALL_LETTER_Y_WITH_DOT_ABOVE CAPITAL_LETTER_Z_WITH_CIRCUMFLEX
  SMALL_LETTER_Z_WITH_CIRCUMFLEX CAPITAL_LETTER_Z_WITH_DOT_BELOW SMALL_LETTER_Z_WITH_DOT_BELOW
  CAPITAL_LETTER_Z_WITH_LINE_BELOW LATIN_SMALL_LETTER_: Z_WITH_LINE_BELOW H_WITH_LINE_BELOW
  T_WITH_DIAERESIS W_WITH_RING_ABOVE Y_WITH_RING_ABOVE A_WITH_RIGHT_HALF_RING
  LATIN_SMALL_LETTER_LONG_S_WITH_: DOT_ABOVE DIAGONAL_STROKE HIGH_STROKE LATIN_:
  CAPITAL_LETTER_SHARP_S SMALL_LETTER_DELTA CAPITAL_LETTER_A_WITH_DOT_BELOW
  SMALL_LETTER_A_WITH_DOT_BELOW CAPITAL_LETTER_A_WITH_HOOK_ABOVE SMALL_LETTER_A_WITH_HOOK_ABOVE
  CAPITAL_LETTER_A_WITH_CIRCUMFLEX_AND_ACUTE SMALL_LETTER_A_WITH_CIRCUMFLEX_AND_ACUTE
  CAPITAL_LETTER_A_WITH_CIRCUMFLEX_AND_GRAVE SMALL_LETTER_A_WITH_CIRCUMFLEX_AND_GRAVE
  CAPITAL_LETTER_A_WITH_CIRCUMFLEX_AND_HOOK_ABOVE SMALL_LETTER_A_WITH_CIRCUMFLEX_AND_HOOK_ABOVE
  CAPITAL_LETTER_A_WITH_CIRCUMFLEX_AND_TILDE SMALL_LETTER_A_WITH_CIRCUMFLEX_AND_TILDE
  CAPITAL_LETTER_A_WITH_CIRCUMFLEX_AND_DOT_BELOW SMALL_LETTER_A_WITH_CIRCUMFLEX_AND_DOT_BELOW
  CAPITAL_LETTER_A_WITH_BREVE_AND_ACUTE SMALL_LETTER_A_WITH_BREVE_AND_ACUTE
  CAPITAL_LETTER_A_WITH_BREVE_AND_GRAVE SMALL_LETTER_A_WITH_BREVE_AND_GRAVE
  CAPITAL_LETTER_A_WITH_BREVE_AND_HOOK_ABOVE SMALL_LETTER_A_WITH_BREVE_AND_HOOK_ABOVE
  CAPITAL_LETTER_A_WITH_BREVE_AND_TILDE SMALL_LETTER_A_WITH_BREVE_AND_TILDE
  CAPITAL_LETTER_A_WITH_BREVE_AND_DOT_BELOW SMALL_LETTER_A_WITH_BREVE_AND_DOT_BELOW
  CAPITAL_LETTER_E_WITH_DOT_BELOW SMALL_LETTER_E_WITH_DOT_BELOW CAPITAL_LETTER_E_WITH_HOOK_ABOVE
  SMALL_LETTER_E_WITH_HOOK_ABOVE CAPITAL_LETTER_E_WITH_TILDE SMALL_LETTER_E_WITH_TILDE
  CAPITAL_LETTER_E_WITH_CIRCUMFLEX_AND_ACUTE SMALL_LETTER_E_WITH_CIRCUMFLEX_AND_ACUTE
  CAPITAL_LETTER_E_WITH_CIRCUMFLEX_AND_GRAVE SMALL_LETTER_E_WITH_CIRCUMFLEX_AND_GRAVE
  CAPITAL_LETTER_E_WITH_CIRCUMFLEX_AND_HOOK_ABOVE SMALL_LETTER_E_WITH_CIRCUMFLEX_AND_HOOK_ABOVE
  CAPITAL_LETTER_E_WITH_CIRCUMFLEX_AND_TILDE SMALL_LETTER_E_WITH_CIRCUMFLEX_AND_TILDE
  CAPITAL_LETTER_E_WITH_CIRCUMFLEX_AND_DOT_BELOW SMALL_LETTER_E_WITH_CIRCUMFLEX_AND_DOT_BELOW
  CAPITAL_LETTER_I_WITH_HOOK_ABOVE SMALL_LETTER_I_WITH_HOOK_ABOVE CAPITAL_LETTER_I_WITH_DOT_BELOW
  SMALL_LETTER_I_WITH_DOT_BELOW CAPITAL_LETTER_O_WITH_DOT_BELOW SMALL_LETTER_O_WITH_DOT_BELOW
  CAPITAL_LETTER_O_WITH_HOOK_ABOVE SMALL_LETTER_O_WITH_HOOK_ABOVE
  CAPITAL_LETTER_O_WITH_CIRCUMFLEX_AND_ACUTE SMALL_LETTER_O_WITH_CIRCUMFLEX_AND_ACUTE
  CAPITAL_LETTER_O_WITH_CIRCUMFLEX_AND_GRAVE SMALL_LETTER_O_WITH_CIRCUMFLEX_AND_GRAVE
  CAPITAL_LETTER_O_WITH_CIRCUMFLEX_AND_HOOK_ABOVE SMALL_LETTER_O_WITH_CIRCUMFLEX_AND_HOOK_ABOVE
  CAPITAL_LETTER_O_WITH_CIRCUMFLEX_AND_TILDE SMALL_LETTER_O_WITH_CIRCUMFLEX_AND_TILDE
  CAPITAL_LETTER_O_WITH_CIRCUMFLEX_AND_DOT_BELOW SMALL_LETTER_O_WITH_CIRCUMFLEX_AND_DOT_BELOW
  CAPITAL_LETTER_O_WITH_HORN_AND_ACUTE SMALL_LETTER_O_WITH_HORN_AND_ACUTE
  CAPITAL_LETTER_O_WITH_HORN_AND_GRAVE SMALL_LETTER_O_WITH_HORN_AND_GRAVE
  CAPITAL_LETTER_O_WITH_HORN_AND_HOOK_ABOVE SMALL_LETTER_O_WITH_HORN_AND_HOOK_ABOVE
  CAPITAL_LETTER_O_WITH_HORN_AND_TILDE SMALL_LETTER_O_WITH_HORN_AND_TILDE
  CAPITAL_LETTER_O_WITH_HORN_AND_DOT_BELOW SMALL_LETTER_O_WITH_HORN_AND_DOT_BELOW
  CAPITAL_LETTER_U_WITH_DOT_BELOW SMALL_LETTER_U_WITH_DOT_BELOW CAPITAL_LETTER_U_WITH_HOOK_ABOVE
  SMALL_LETTER_U_WITH_HOOK_ABOVE CAPITAL_LETTER_U_WITH_HORN_AND_ACUTE
  SMALL_LETTER_U_WITH_HORN_AND_ACUTE CAPITAL_LETTER_U_WITH_HORN_AND_GRAVE
  SMALL_LETTER_U_WITH_HORN_AND_GRAVE CAPITAL_LETTER_U_WITH_HORN_AND_HOOK_ABOVE
  SMALL_LETTER_U_WITH_HORN_AND_HOOK_ABOVE CAPITAL_LETTER_U_WITH_HORN_AND_TILDE
  SMALL_LETTER_U_WITH_HORN_AND_TILDE CAPITAL_LETTER_U_WITH_HORN_AND_DOT_BELOW
  SMALL_LETTER_U_WITH_HORN_AND_DOT_BELOW CAPITAL_LETTER_Y_WITH_GRAVE SMALL_LETTER_Y_WITH_GRAVE
  CAPITAL_LETTER_Y_WITH_DOT_BELOW SMALL_LETTER_Y_WITH_DOT_BELOW CAPITAL_LETTER_Y_WITH_HOOK_ABOVE
  SMALL_LETTER_Y_WITH_HOOK_ABOVE CAPITAL_LETTER_Y_WITH_TILDE SMALL_LETTER_Y_WITH_TILDE
  CAPITAL_LETTER_MIDDLE-WELSH_LL SMALL_LETTER_MIDDLE-WELSH_LL CAPITAL_LETTER_MIDDLE-WELSH_V
  SMALL_LETTER_MIDDLE-WELSH_V CAPITAL_LETTER_Y_WITH_LOOP SMALL_LETTER_Y_WITH_LOOP
  GREEK_SMALL_LETTER_ALPHA_WITH_: PSILI DASIA PSILI_AND_VARIA DASIA_AND_VARIA PSILI_AND_OXIA
  DASIA_AND_OXIA PSILI_AND_PERISPOMENI DASIA_AND_PERISPOMENI GREEK_CAPITAL_LETTER_ALPHA_WITH_:
  PSILI DASIA PSILI_AND_VARIA DASIA_AND_VARIA PSILI_AND_OXIA DASIA_AND_OXIA PSILI_AND_PERISPOMENI
  DASIA_AND_PERISPOMENI GREEK_SMALL_LETTER_EPSILON_WITH_: PSILI DASIA PSILI_AND_VARIA
  DASIA_AND_VARIA PSILI_AND_OXIA DASIA_AND_OXIA @1F18 GREEK_CAPITAL_LETTER_EPSILON_WITH_: PSILI
  DASIA PSILI_AND_VARIA DASIA_AND_VARIA PSILI_AND_OXIA DASIA_AND_OXIA @1F20
  GREEK_SMALL_LETTER_ETA_WITH_: PSILI DASIA PSILI_AND_VARIA DASIA_AND_VARIA PSILI_AND_OXIA
  DASIA_AND_OXIA PSILI_AND_PERISPOMENI DASIA_AND_PERISPOMENI GREEK_CAPITAL_LETTER_ETA_WITH_: PSILI
  DASIA PSILI_AND_VARIA DASIA_AND_VARIA PSILI_AND_OXIA DASIA_AND_OXIA PSILI_AND_PERISPOMENI
  DASIA_AND_PERISPOMENI GREEK_SMALL_LETTER_IOTA_WITH_: PSILI DASIA PSILI_AND_VARIA DASIA_AND_VARIA
  PSILI_AND_OXIA DASIA_AND_OXIA PSILI_AND_PERISPOMENI DASIA_AND_PERISPOMENI
  GREEK_CAPITAL_LETTER_IOTA_WITH_: PSILI DASIA PSILI_AND_VARIA DASIA_AND_VARIA PSILI_AND_OXIA
  DASIA_AND_OXIA PSILI_AND_PERISPOMENI DASIA_AND_PERISPOMENI GREEK_SMALL_LETTER_OMICRON_WITH_:
  PSILI DASIA PSILI_AND_VARIA DASIA_AND_VARIA PSILI_AND_OXIA DASIA_AND_OXIA @1F48
  GREEK_CAPITAL_LETTER_OMICRON_WITH_: PSILI DASIA PSILI_AND_VARIA DASIA_AND_VARIA PSILI_AND_OXIA
  DASIA_AND_OXIA @1F50 GREEK_SMALL_LETTER_UPSILON_WITH_: PSILI DASIA PSILI_AND_VARIA
  DASIA_AND_VARIA PSILI_AND_OXIA DASIA_AND_OXIA PSILI_AND_PERISPOMENI DASIA_AND_PERISPOMENI @1F59
  GREEK_CAPITAL_LETTER_UPSILON_WITH_: DASIA @1F5B GREEK_CAPITAL_LETTER_UPSILON_WITH_DASIA_AND_:
  VARIA @1F5D OXIA @1F5F PERISPOMENI GREEK_SMALL_LETTER_OMEGA_WITH_: PSILI DASIA PSILI_AND_VARIA
  DASIA_AND_VARIA PSILI_AND_OXIA DASIA_AND_OXIA PSILI_AND_PERISPOMENI DASIA_AND_PERISPOMENI
  GREEK_CAPITAL_LETTER_OMEGA_WITH_: PSILI DASIA PSILI_AND_VARIA DASIA_AND_VARIA PSILI_AND_OXIA
  DASIA_AND_OXIA PSILI_AND_PERISPOMENI DASIA_AND_PERISPOMENI GREEK_SMALL_LETTER_: ALPHA_WITH_VARIA
  ALPHA_WITH_OXIA EPSILON_WITH_VARIA EPSILON_WITH_OXIA ETA_WITH_VARIA ETA_WITH_OXIA IOTA_WITH_VARIA
  IOTA_WITH_OXIA OMICRON_WITH_VARIA OMICRON_WITH_OXIA UPSILON_WITH_VARIA UPSILON_WITH_OXIA
  OMEGA_WITH_VARIA OMEGA_WITH_OXIA @1F80 GREEK_SMALL_LETTER_ALPHA_WITH_: PSILI_AND_YPOGEGRAMMENI
  DASIA_AND_YPOGEGRAMMENI PSILI_AND_VARIA_AND_YPOGEGRAMMENI DASIA_AND_VARIA_AND_YPOGEGRAMMENI
  PSILI_AND_OXIA_AND_YPOGEGRAMMENI DASIA_AND_OXIA_AND_YPOGEGRAMMENI
  PSILI_AND_PERISPOMENI_AND_YPOGEGRAMMENI DASIA_AND_PERISPOMENI_AND_YPOGEGRAMMENI
  GREEK_CAPITAL_LETTER_ALPHA_WITH_: PSILI_AND_PROSGEGRAMMENI DASIA_AND_PROSGEGRAMMENI
  PSILI_AND_VARIA_AND_PROSGEGRAMMENI DASIA_AND_VARIA_AND_PROSGEGRAMMENI
  PSILI_AND_OXIA_AND_PROSGEGRAMMENI DASIA_AND_OXIA_AND_PROSGEGRAMMENI
  PSILI_AND_PERISPOMENI_AND_PROSGEGRAMMENI DASIA_AND_PERISPOMENI_AND_PROSGEGRAMMENI
  GREEK_SMALL_LETTER_ETA_WITH_: PSILI_AND_YPOGEGRAMMENI DASIA_AND_YPOGEGRAMMENI
  PSILI_AND_VARIA_AND_YPOGEGRAMMENI DASIA_AND_VARIA_AND_YPOGEGRAMMENI
  PSILI_AND_OXIA_AND_YPOGEGRAMMENI DASIA_AND_OXIA_AND_YPOGEGRAMMENI
  PSILI_AND_PERISPOMENI_AND_YPOGEGRAMMENI DASIA_AND_PERISPOMENI_AND_YPOGEGRAMMENI
  GREEK_CAPITAL_LETTER_ETA_WITH_: PSILI_AND_PROSGEGRAMMENI DASIA_AND_PROSGEGRAMMENI
  PSILI_AND_VARIA_AND_PROSGEGRAMMENI DASIA_AND_VARIA_AND_PROSGEGRAMMENI
  PSILI_AND_OXIA_AND_PROSGEGRAMMENI DASIA_AND_OXIA_AND_PROSGEGRAMMENI
  PSILI_AND_PERISPOMENI_AND_PROSGEGRAMMENI DASIA_AND_PERISPOMENI_AND_PROSGEGRAMMENI
  GREEK_SMALL_LETTER_OMEGA_WITH_: PSILI_AND_YPOGEGRAMMENI DASIA_AND_YPOGEGRAMMENI
  PSILI_AND_VARIA_AND_YPOGEGRAMMENI DASIA_AND_VARIA_AND_YPOGEGRAMMENI
  PSILI_AND_OXIA_AND_YPOGEGRAMMENI DASIA_AND_OXIA_AND_YPOGEGRAMMENI
  PSILI_AND_PERISPOMENI_AND_YPOGEGRAMMENI DASIA_AND_PERISPOMENI_AND_YPOGEGRAMMENI
  GREEK_CAPITAL_LETTER_OMEGA_WITH_: PSILI_AND_PROSGEGRAMMENI DASIA_AND_PROSGEGRAMMENI
  PSILI_AND_VARIA_AND_PROSGEGRAMMENI DASIA_AND_VARIA_AND_PROSGEGRAMMENI
  PSILI_AND_OXIA_AND_PROSGEGRAMMENI DASIA_AND_OXIA_AND_PROSGEGRAMMENI
  PSILI_AND_PERISPOMENI_AND_PROSGEGRAMMENI DASIA_AND_PERISPOMENI_AND_PROSGEGRAMMENI
  GREEK_SMALL_LETTER_ALPHA_WITH_: VRACHY MACRON VARIA_AND_YPOGEGRAMMENI YPOGEGRAMMENI
  OXIA_AND_YPOGEGRAMMENI @1FB6 PERISPOMENI PERISPOMENI_AND_YPOGEGRAMMENI
  GREEK_CAPITAL_LETTER_ALPHA_WITH_: VRACHY MACRON VARIA OXIA PROSGEGRAMMENI GREEK_: KORONIS
  PROSGEGRAMMENI PSILI PERISPOMENI DIALYTIKA_AND_PERISPOMENI GREEK_SMALL_LETTER_ETA_WITH_:
  VARIA_AND_YPOGEGRAMMENI YPOGEGRAMMENI OXIA_AND_YPOGEGRAMMENI @1FC6 PERISPOMENI
  PERISPOMENI_AND_YPOGEGRAMMENI GREEK_CAPITAL_LETTER_EPSILON_WITH_: VARIA OXIA
  GREEK_CAPITAL_LETTER_ETA_WITH_: VARIA OXIA PROSGEGRAMMENI GREEK_PSILI_AND_: VARIA OXIA
  PERISPOMENI GREEK_SMALL_LETTER_IOTA_WITH_: VRACHY MACRON DIALYTIKA_AND_VARIA DIALYTIKA_AND_OXIA
  @1FD6 PERISPOMENI DIALYTIKA_AND_PERISPOMENI GREEK_CAPITAL_LETTER_IOTA_WITH_: VRACHY MACRON VARIA
  OXIA @1FDD GREEK_DASIA_AND_: VARIA OXIA PERISPOMENI GREEK_SMALL_LETTER_UPSILON_WITH_: VRACHY
  MACRON DIALYTIKA_AND_VARIA DIALYTIKA_AND_OXIA GREEK_SMALL_LETTER_RHO_WITH_: PSILI DASIA
  GREEK_SMALL_LETTER_UPSILON_WITH_: PERISPOMENI DIALYTIKA_AND_PERISPOMENI
  GREEK_CAPITAL_LETTER_UPSILON_WITH_: VRACHY MACRON VARIA OXIA GREEK_:
  CAPITAL_LETTER_RHO_WITH_DASIA DIALYTIKA_AND_VARIA DIALYTIKA_AND_OXIA VARIA @1FF2
  GREEK_SMALL_LETTER_OMEGA_WITH_: VARIA_AND_YPOGEGRAMMENI YPOGEGRAMMENI OXIA_AND_YPOGEGRAMMENI
  @1FF6 PERISPOMENI PERISPOMENI_AND_YPOGEGRAMMENI GREEK_CAPITAL_LETTER_OMICRON_WITH_: VARIA OXIA
  GREEK_CAPITAL_LETTER_OMEGA_WITH_: VARIA OXIA PROSGEGRAMMENI GREEK_: OXIA DASIA
"

end EntityScaffold.Text.CharacterName
