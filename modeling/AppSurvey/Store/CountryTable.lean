/-!
# Countries: the data

The countries of the store with their currencies, and which countries share the store of another.
-/

namespace AppSurvey.Store

/-- A country of the store. -/
structure Country where
  code : String
  name : String
  currency : String
  deriving DecidableEq

/-- Every country of the store. -/
def countries : List Country :=
  [⟨"us", "United States", "USD"⟩, ⟨"ca", "Canada", "CAD"⟩, ⟨"mx", "Mexico", "MXN"⟩,
    ⟨"gt", "Guatemala", "GTQ"⟩, ⟨"hn", "Honduras", "HNL"⟩, ⟨"sv", "El Salvador", "USD"⟩,
    ⟨"ni", "Nicaragua", "NIO"⟩, ⟨"cr", "Costa Rica", "CRC"⟩, ⟨"pa", "Panama", "PAB"⟩,
    ⟨"bz", "Belize", "BZD"⟩, ⟨"cu", "Cuba", "CUP"⟩, ⟨"jm", "Jamaica", "JMD"⟩,
    ⟨"do", "Dominican Republic", "DOP"⟩, ⟨"ht", "Haiti", "HTG"⟩,
    ⟨"tt", "Trinidad and Tobago", "TTD"⟩, ⟨"bb", "Barbados", "BBD"⟩, ⟨"bs", "Bahamas", "BSD"⟩,
    ⟨"pr", "Puerto Rico", "USD"⟩, ⟨"ai", "Anguilla", "XCD"⟩,
    ⟨"ag", "Antigua and Barbuda", "XCD"⟩, ⟨"aw", "Aruba", "AWG"⟩, ⟨"bm", "Bermuda", "BMD"⟩,
    ⟨"bq", "Caribbean Netherlands", "USD"⟩, ⟨"ky", "Cayman Islands", "KYD"⟩,
    ⟨"cw", "Curaçao", "ANG"⟩, ⟨"dm", "Dominica", "XCD"⟩, ⟨"gd", "Grenada", "XCD"⟩,
    ⟨"gp", "Guadeloupe", "EUR"⟩, ⟨"mq", "Martinique", "EUR"⟩, ⟨"ms", "Montserrat", "XCD"⟩,
    ⟨"bl", "Saint Barthélemy", "EUR"⟩, ⟨"kn", "Saint Kitts and Nevis", "XCD"⟩,
    ⟨"lc", "Saint Lucia", "XCD"⟩, ⟨"mf", "Saint Martin", "EUR"⟩,
    ⟨"pm", "Saint Pierre and Miquelon", "EUR"⟩,
    ⟨"vc", "Saint Vincent and the Grenadines", "XCD"⟩, ⟨"sx", "Sint Maarten", "ANG"⟩,
    ⟨"tc", "Turks and Caicos Islands", "USD"⟩, ⟨"vg", "British Virgin Islands", "USD"⟩,
    ⟨"vi", "U.S. Virgin Islands", "USD"⟩, ⟨"br", "Brazil", "BRL"⟩, ⟨"ar", "Argentina", "ARS"⟩,
    ⟨"cl", "Chile", "CLP"⟩, ⟨"co", "Colombia", "COP"⟩, ⟨"pe", "Peru", "PEN"⟩,
    ⟨"ve", "Venezuela", "VES"⟩, ⟨"ec", "Ecuador", "USD"⟩, ⟨"bo", "Bolivia", "BOB"⟩,
    ⟨"py", "Paraguay", "PYG"⟩, ⟨"uy", "Uruguay", "UYU"⟩, ⟨"gy", "Guyana", "GYD"⟩,
    ⟨"sr", "Suriname", "SRD"⟩, ⟨"gf", "French Guiana", "EUR"⟩, ⟨"fk", "Falkland Islands", "FKP"⟩,
    ⟨"gb", "United Kingdom", "GBP"⟩, ⟨"de", "Germany", "EUR"⟩, ⟨"fr", "France", "EUR"⟩,
    ⟨"es", "Spain", "EUR"⟩, ⟨"it", "Italy", "EUR"⟩, ⟨"nl", "Netherlands", "EUR"⟩,
    ⟨"be", "Belgium", "EUR"⟩, ⟨"at", "Austria", "EUR"⟩, ⟨"ch", "Switzerland", "CHF"⟩,
    ⟨"ie", "Ireland", "EUR"⟩, ⟨"pt", "Portugal", "EUR"⟩, ⟨"lu", "Luxembourg", "EUR"⟩,
    ⟨"mc", "Monaco", "EUR"⟩, ⟨"li", "Liechtenstein", "CHF"⟩, ⟨"ad", "Andorra", "EUR"⟩,
    ⟨"sm", "San Marino", "EUR"⟩, ⟨"va", "Vatican City", "EUR"⟩, ⟨"gi", "Gibraltar", "GIP"⟩,
    ⟨"se", "Sweden", "SEK"⟩, ⟨"no", "Norway", "NOK"⟩, ⟨"dk", "Denmark", "DKK"⟩,
    ⟨"fi", "Finland", "EUR"⟩, ⟨"is", "Iceland", "ISK"⟩, ⟨"fo", "Faroe Islands", "DKK"⟩,
    ⟨"ax", "Åland Islands", "EUR"⟩, ⟨"pl", "Poland", "PLN"⟩, ⟨"cz", "Czech Republic", "CZK"⟩,
    ⟨"hu", "Hungary", "HUF"⟩, ⟨"ro", "Romania", "RON"⟩, ⟨"bg", "Bulgaria", "BGN"⟩,
    ⟨"sk", "Slovakia", "EUR"⟩, ⟨"si", "Slovenia", "EUR"⟩, ⟨"hr", "Croatia", "EUR"⟩,
    ⟨"ee", "Estonia", "EUR"⟩, ⟨"lv", "Latvia", "EUR"⟩, ⟨"lt", "Lithuania", "EUR"⟩,
    ⟨"rs", "Serbia", "RSD"⟩, ⟨"ua", "Ukraine", "UAH"⟩, ⟨"by", "Belarus", "BYN"⟩,
    ⟨"md", "Moldova", "MDL"⟩, ⟨"gr", "Greece", "EUR"⟩, ⟨"cy", "Cyprus", "EUR"⟩,
    ⟨"mt", "Malta", "EUR"⟩, ⟨"al", "Albania", "ALL"⟩, ⟨"mk", "North Macedonia", "MKD"⟩,
    ⟨"ba", "Bosnia and Herzegovina", "BAM"⟩, ⟨"me", "Montenegro", "EUR"⟩,
    ⟨"xk", "Kosovo", "EUR"⟩, ⟨"im", "Isle of Man", "GBP"⟩, ⟨"je", "Jersey", "GBP"⟩,
    ⟨"gg", "Guernsey", "GBP"⟩, ⟨"jp", "Japan", "JPY"⟩, ⟨"kr", "South Korea", "KRW"⟩,
    ⟨"cn", "China", "CNY"⟩, ⟨"hk", "Hong Kong", "HKD"⟩, ⟨"tw", "Taiwan", "TWD"⟩,
    ⟨"mo", "Macao", "MOP"⟩, ⟨"mn", "Mongolia", "MNT"⟩, ⟨"sg", "Singapore", "SGD"⟩,
    ⟨"my", "Malaysia", "MYR"⟩, ⟨"th", "Thailand", "THB"⟩, ⟨"id", "Indonesia", "IDR"⟩,
    ⟨"ph", "Philippines", "PHP"⟩, ⟨"vn", "Vietnam", "VND"⟩, ⟨"mm", "Myanmar", "MMK"⟩,
    ⟨"kh", "Cambodia", "KHR"⟩, ⟨"la", "Laos", "LAK"⟩, ⟨"bn", "Brunei", "BND"⟩,
    ⟨"tl", "Timor-Leste", "USD"⟩, ⟨"in", "India", "INR"⟩, ⟨"pk", "Pakistan", "PKR"⟩,
    ⟨"bd", "Bangladesh", "BDT"⟩, ⟨"lk", "Sri Lanka", "LKR"⟩, ⟨"np", "Nepal", "NPR"⟩,
    ⟨"bt", "Bhutan", "BTN"⟩, ⟨"mv", "Maldives", "MVR"⟩, ⟨"kz", "Kazakhstan", "KZT"⟩,
    ⟨"uz", "Uzbekistan", "UZS"⟩, ⟨"kg", "Kyrgyzstan", "KGS"⟩, ⟨"tj", "Tajikistan", "TJS"⟩,
    ⟨"tm", "Turkmenistan", "TMT"⟩, ⟨"af", "Afghanistan", "AFN"⟩, ⟨"tr", "Turkey", "TRY"⟩,
    ⟨"il", "Israel", "ILS"⟩, ⟨"sa", "Saudi Arabia", "SAR"⟩,
    ⟨"ae", "United Arab Emirates", "AED"⟩, ⟨"qa", "Qatar", "QAR"⟩, ⟨"kw", "Kuwait", "KWD"⟩,
    ⟨"bh", "Bahrain", "BHD"⟩, ⟨"om", "Oman", "OMR"⟩, ⟨"jo", "Jordan", "JOD"⟩,
    ⟨"lb", "Lebanon", "LBP"⟩, ⟨"iq", "Iraq", "IQD"⟩, ⟨"ye", "Yemen", "YER"⟩,
    ⟨"ps", "Palestine", "ILS"⟩, ⟨"ir", "Iran", "IRR"⟩, ⟨"ge", "Georgia", "GEL"⟩,
    ⟨"am", "Armenia", "AMD"⟩, ⟨"az", "Azerbaijan", "AZN"⟩, ⟨"ru", "Russia", "RUB"⟩,
    ⟨"eg", "Egypt", "EGP"⟩, ⟨"ma", "Morocco", "MAD"⟩, ⟨"dz", "Algeria", "DZD"⟩,
    ⟨"tn", "Tunisia", "TND"⟩, ⟨"ly", "Libya", "LYD"⟩, ⟨"sd", "Sudan", "SDG"⟩,
    ⟨"ss", "South Sudan", "SSP"⟩, ⟨"ng", "Nigeria", "NGN"⟩, ⟨"gh", "Ghana", "GHS"⟩,
    ⟨"ci", "Côte d'Ivoire", "XOF"⟩, ⟨"sn", "Senegal", "XOF"⟩, ⟨"ml", "Mali", "XOF"⟩,
    ⟨"bf", "Burkina Faso", "XOF"⟩, ⟨"ne", "Niger", "XOF"⟩, ⟨"gn", "Guinea", "GNF"⟩,
    ⟨"sl", "Sierra Leone", "SLE"⟩, ⟨"lr", "Liberia", "LRD"⟩, ⟨"gm", "Gambia", "GMD"⟩,
    ⟨"bj", "Benin", "XOF"⟩, ⟨"tg", "Togo", "XOF"⟩, ⟨"mr", "Mauritania", "MRU"⟩,
    ⟨"gw", "Guinea-Bissau", "XOF"⟩, ⟨"cv", "Cape Verde", "CVE"⟩,
    ⟨"st", "São Tomé and Príncipe", "STN"⟩, ⟨"gq", "Equatorial Guinea", "XAF"⟩,
    ⟨"ke", "Kenya", "KES"⟩, ⟨"tz", "Tanzania", "TZS"⟩, ⟨"ug", "Uganda", "UGX"⟩,
    ⟨"et", "Ethiopia", "ETB"⟩, ⟨"so", "Somalia", "SOS"⟩, ⟨"rw", "Rwanda", "RWF"⟩,
    ⟨"bi", "Burundi", "BIF"⟩, ⟨"dj", "Djibouti", "DJF"⟩, ⟨"er", "Eritrea", "ERN"⟩,
    ⟨"za", "South Africa", "ZAR"⟩, ⟨"zw", "Zimbabwe", "ZWL"⟩, ⟨"bw", "Botswana", "BWP"⟩,
    ⟨"na", "Namibia", "NAD"⟩, ⟨"mz", "Mozambique", "MZN"⟩, ⟨"zm", "Zambia", "ZMW"⟩,
    ⟨"mw", "Malawi", "MWK"⟩, ⟨"ls", "Lesotho", "LSL"⟩, ⟨"sz", "Eswatini", "SZL"⟩,
    ⟨"ao", "Angola", "AOA"⟩, ⟨"cm", "Cameroon", "XAF"⟩, ⟨"cd", "DR Congo", "CDF"⟩,
    ⟨"cg", "Congo", "XAF"⟩, ⟨"ga", "Gabon", "XAF"⟩, ⟨"cf", "Central African Republic", "XAF"⟩,
    ⟨"td", "Chad", "XAF"⟩, ⟨"mu", "Mauritius", "MUR"⟩, ⟨"sc", "Seychelles", "SCR"⟩,
    ⟨"yt", "Mayotte", "EUR"⟩, ⟨"re", "Réunion", "EUR"⟩, ⟨"km", "Comoros", "KMF"⟩,
    ⟨"mg", "Madagascar", "MGA"⟩, ⟨"au", "Australia", "AUD"⟩, ⟨"nz", "New Zealand", "NZD"⟩,
    ⟨"fj", "Fiji", "FJD"⟩, ⟨"pg", "Papua New Guinea", "PGK"⟩, ⟨"nc", "New Caledonia", "XPF"⟩,
    ⟨"pf", "French Polynesia", "XPF"⟩, ⟨"vu", "Vanuatu", "VUV"⟩, ⟨"ws", "Samoa", "WST"⟩,
    ⟨"to", "Tonga", "TOP"⟩, ⟨"sb", "Solomon Islands", "SBD"⟩, ⟨"gu", "Guam", "USD"⟩,
    ⟨"as", "American Samoa", "USD"⟩, ⟨"mp", "Northern Mariana Islands", "USD"⟩,
    ⟨"pw", "Palau", "USD"⟩, ⟨"fm", "Micronesia", "USD"⟩, ⟨"mh", "Marshall Islands", "USD"⟩,
    ⟨"ki", "Kiribati", "AUD"⟩, ⟨"nr", "Nauru", "AUD"⟩, ⟨"tv", "Tuvalu", "AUD"⟩,
    ⟨"ck", "Cook Islands", "NZD"⟩, ⟨"nu", "Niue", "NZD"⟩, ⟨"tk", "Tokelau", "NZD"⟩,
    ⟨"pn", "Pitcairn Islands", "NZD"⟩, ⟨"nf", "Norfolk Island", "AUD"⟩,
    ⟨"wf", "Wallis and Futuna", "XPF"⟩, ⟨"um", "U.S. Minor Outlying Islands", "USD"⟩,
    ⟨"gl", "Greenland", "DKK"⟩, ⟨"aq", "Antarctica", "USD"⟩, ⟨"bv", "Bouvet Island", "NOK"⟩,
    ⟨"tf", "French Southern Territories", "EUR"⟩,
    ⟨"hm", "Heard Island and McDonald Islands", "AUD"⟩,
    ⟨"gs", "South Georgia and South Sandwich Islands", "GBP"⟩,
    ⟨"io", "British Indian Ocean Territory", "USD"⟩, ⟨"cc", "Cocos Islands", "AUD"⟩,
    ⟨"cx", "Christmas Island", "AUD"⟩, ⟨"sh", "Saint Helena", "SHP"⟩,
    ⟨"ta", "Tristan da Cunha", "GBP"⟩]

/-- The countries that share the store of another one, by that one. -/
def sharedStores : List (String × List String) :=
  [("vu", ["bz", "jm", "tt", "bb", "bs", "pr", "ai", "ag", "aw", "bm", "bq", "ky", "cw", "dm",
      "gd", "gp", "mq", "ms", "bl", "kn", "lc", "mf", "pm", "sx", "vi", "gy", "sr", "gf",
      "fk", "lu", "mc", "sm", "va", "gi", "dk", "fi", "is", "fo", "ax", "sk", "si", "hr",
      "ee", "lv", "lt", "md", "cy", "mt", "al", "mk", "ba", "me", "im", "je", "cn", "mn",
      "tl", "bt", "tj", "tm", "af", "qa", "kw", "bh", "am", "sd", "ci", "ml", "bf", "gn",
      "sl", "lr", "gm", "bj", "tg", "mr", "gw", "cv", "st", "gq", "tz", "ug", "rw", "bi",
      "dj", "er", "zw", "bw", "na", "mz", "zm", "mw", "ls", "ao", "cm", "cd", "cg", "ga",
      "td", "mu", "sc", "yt", "re", "km", "mg", "fj", "pg", "nc", "pf", "ws", "to", "sb",
      "gu", "as", "mp", "pw", "mh", "nr", "tv", "ck", "nu", "tk", "pn", "nf", "wf", "um",
      "gl", "aq", "bv", "tf", "hm", "gs", "io", "cc", "cx", "sh", "ta"]),
    ("cf", ["cu", "vc", "tc", "li", "xk", "gg", "mo", "bn", "ss", "et", "so"]),
    ("sz", ["ht", "vg", "ad", "mv", "ne"]),
    ("fm", ["ki"])]

end AppSurvey.Store
