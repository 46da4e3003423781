set_option autoImplicit false

/-! # Further names of characters

Some characters have more than one name, and control characters have only such ones. -/

namespace ApiRouter.Text.Name

/-- Abbreviations, the names of control characters, and corrected names. -/
def aliases : List String := [
  "=0aNUL=0aNULLaSOH=1aSTART OF HEADINGcTEXT=2aSTXaEND OF TEXT=3aETXaEND OF TRANSMISSION=4aEOT",
  "aENQ=5aENQUIRYaACK=6aACKNOWLEDGEaALERT=7aBELaBACKSPACE=8aBSaCHARACTER TABULATION=9",
  "anHORIZONTAL=9aHT=9aTABaEND OF LINE=AaEOL=AaLF=AaLINE FEED=AaNEW LINE=AaNLaLINE TABULATION=B",
  "anVERTICAL=BaVTaFF=CaFORM FEEDaCARRIAGE RETURN=DaCRaLOCKING-SHIFT ONE=EaSHIFT OUT=EaSO",
  "aLOCKING-SHIFT ZERO=FaSHIFT IN=FaSIaDATA LINK ESCAPE=10aDLEaDC1=11aDEVICE CONTROL ONEaDC2=12",
  "aDEVICE CONTROL TWOaDC3=13aDEVICE CONTROL THREEaDC4=14aDEVICE CONTROL FOURaNAK=15",
  "aNEGATIVE ACKNOWLEDGEaSYN=16aSYNCHRONOUS IDLEaEND OF TRANSMISSION BLOCK=17aETBaCAN=18aCANCEL",
  "aEND OF MEDIUM=19aEOMaSUB=1AaSUBSTITUTEaESC=1BaESCAPEaFILE SEPARATOR=1CaFS=1C",
  "aINFORMATION SEPARATOR FOURaGROUP SEPARATOR=1DaGS=1DaINFORMATION SEPARATOR THREEcTWO=1E",
  "aRECORD SEPARATOR=1EaRSaINFORMATION SEPARATOR ONE=1FaUNIT SEPARATOR=1FaUSaSP=7FaDEL=7FaDELETE",
  "aPAD=80aPADDING CHARACTERaHIGH OCTET PRESET=81aHOPaBPH=82aBREAK PERMITTED HEREaNBH=83",
  "aNO BREAK HEREaIND=84aINDEXaNEL=85aNEXT LINEaSSA=86aSTART OF SELECTED AREAapEND=87aESA",
  "aCHARACTER TABULATION SET=88aoHORIZONTAL=88aHTSaCHARACTER TABULATION WITH JUSTIFICATION=89",
  "apHORIZONTAL=89aHTJaLINE TABULATION SET=8AaoVERTICAL=8AaVTSaPARTIAL LINE DOWN=8BcFORWARD=8B",
  "aPLDaPARTIAL LINE BACKWARD=8CcUP=8CaPLUaREVERSE INDEX=8DbLINE FEED=8DaRIaSINGLE SHIFT TWO=8E",
  "aSINGLE-SHIFT-2=8EaSS2aSINGLE SHIFT THREE=8FaSINGLE-SHIFT-3=8FaSS3aDCS=90",
  "aDEVICE CONTROL STRINGaPRIVATE USE ONE=91bUSE-1=91aPU1aPRIVATE USE TWO=92bUSE-2=92aPU2",
  "aSET TRANSMIT STATE=93aSTSaCANCEL CHARACTER=94aCCHaMESSAGE WAITING=95aMWaSPA=96",
  "aSTART OF GUARDED AREA=96cnPROTECTEDanEND OF GUARDED=97cnPROTECTED=97aEPAaSOS=98",
  "aSTART OF STRINGaSGC=99aSINGLE GRAPHIC CHARACTER INTRODUCERaSCI=9A",
  "aSINGLE CHARACTER INTRODUCERanCONTROL SEQUENCE=9BaCSIaST=9CaSTRING TERMINATOR",
  "aOPERATING SYSTEM COMMAND=9DaOSCaPM=9EaPRIVACY MESSAGEaAPC=9FaAPPLICATION PROGRAM COMMAND",
  "aNBSP=ADaSHY=1A2aLATIN CAPITAL LETTER GHAboSMALL=34FaCGJ=61CaALM=709",
  "aSYRIAC SUBLINEAR COLON SKEWED LEFT=CDEaKANNADA LETTER LLLA=E9DaLAO LETTER FO FON=E9FdFAY=EA3",
  "cRO=EA5cLO=FD0aTIBETAN MARK BKA- SHOG GI MGO RGYAN=11ECaHANGUL JONGSEONG YESIEUNG-KIYEOK",
  "cYESIEUNG-SSANGKIYEOKcSSANGYESIEUNGcYESIEUNG-KHIEUKH=180BaFVS1+2aMVSaFVS4=200BaZWSPaZWNJaZWJ",
  "aLRMaRLM=202AaLREaRLEaPDFaLROaRLOaNNBSP=205FaMMSPaWJ=2066aLRIaRLIaFSIaPDI=2118",
  "aWEIERSTRASS ELLIPTIC FUNCTION=2448aMICR ON US SYMBOLbnDASH=2B7A",
  "aLEFTWARDS TRIANGLE-HEADED ARROW WITH DOUBLE VERTICAL STROKE=2B7CasRIGHTWARDS=A015",
  "aYI SYLLABLE ITERATION MARK=AA6EaMYANMAR LETTER KHAMTI LLA=FE00aVS1+15=FE18",
  "aPRESENTATION FORM FOR VERTICAL RIGHT WHITE LENTICULAR BRACKET=FEFFaBOM=FEFFaBYTE ORDER MARK",
  "=FEFFaZWNBSP=122D4aCUNEIFORM SIGN NU11 TENUdOVER NU11 BUR OVER BUR=16E56",
  "aMEDEFAIDRIN CAPITAL LETTER HdNG=16E76bSMALL LETTER HdNG=1B001aHENTAIGANA LETTER E-1=1D0C5",
  "aBYZANTINE MUSICAL SYMBOL FTHORA SKLIRON CHROMA VASIS=E0100aVS17+239"
]

end ApiRouter.Text.Name
