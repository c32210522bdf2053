/-!
# Zones of the oceans, Australia and the Antarctic

Entries of the time zone database for the oceans, Australia and the Antarctic.
-/

namespace TransitDwell

namespace ZoneData

/-- The yearly changes of clocks that are laid down there. -/
def oceansChanges : String := "
  Troll = 2005- Mar lastSun 1u 2; 2004- Oct lastSun 1u 0.
  Australia = 1917 Jan 1 2s 1; 1917 Mar lastSun 2s 0; 1942 Jan 1 2s 1; 1942 Mar lastSun 2s 0;
    1942 Sep 27 2s 1; 1943-1944 Mar lastSun 2s 0; 1943 Oct 3 2s 1.
  WesternAustralia = 1974 Oct lastSun 2s 1; 1975 Mar Sun>=1 2s 0; 1983 Oct lastSun 2s 1;
    1984 Mar Sun>=1 2s 0; 1991 Nov 17 2s 1; 1992 Mar Sun>=1 2s 0; 2006 Dec 3 2s 1;
    2007-2009 Mar lastSun 2s 0; 2007-2008 Oct lastSun 2s 1.
  Queensland = 1971 Oct lastSun 2s 1; 1972 Feb lastSun 2s 0; 1989-1991 Oct lastSun 2s 1;
    1990-1992 Mar Sun>=1 2s 0.
  HolidayIslands = 1992-1993 Oct lastSun 2s 1; 1993-1994 Mar Sun>=1 2s 0.
  SouthAustralia = 1971-1985 Oct lastSun 2s 1; 1986 Oct 19 2s 1; 1987-2007 Oct lastSun 2s 1;
    1972 Feb 27 2s 0; 1973-1985 Mar Sun>=1 2s 0; 1986-1990 Mar Sun>=15 2s 0; 1991 Mar 3 2s 0;
    1992 Mar 22 2s 0; 1993 Mar 7 2s 0; 1994 Mar 20 2s 0; 1995-2005 Mar lastSun 2s 0;
    2006 Apr 2 2s 0; 2007 Mar lastSun 2s 0; 2008- Apr Sun>=1 2s 0; 2008- Oct Sun>=1 2s 1.
  Tasmania = 1916 Oct Sun>=1 2s 1; 1917 Mar lastSun 2s 0; 1917-1918 Oct Sun>=22 2s 1;
    1918-1919 Mar Sun>=1 2s 0; 1967 Oct Sun>=1 2s 1; 1968 Mar Sun>=29 2s 0;
    1968-1985 Oct lastSun 2s 1; 1969-1971 Mar Sun>=8 2s 0; 1972 Feb lastSun 2s 0;
    1973-1981 Mar Sun>=1 2s 0; 1982-1983 Mar lastSun 2s 0; 1984-1986 Mar Sun>=1 2s 0;
    1986 Oct Sun>=15 2s 1; 1987-1990 Mar Sun>=15 2s 0; 1987 Oct Sun>=22 2s 1;
    1988-1990 Oct lastSun 2s 1; 1991-1999 Oct Sun>=1 2s 1; 1991-2005 Mar lastSun 2s 0;
    2000 Aug lastSun 2s 1; 2001- Oct Sun>=1 2s 1; 2006 Apr Sun>=1 2s 0; 2007 Mar lastSun 2s 0;
    2008- Apr Sun>=1 2s 0.
  Victoria = 1971-1985 Oct lastSun 2s 1; 1972 Feb lastSun 2s 0; 1973-1985 Mar Sun>=1 2s 0;
    1986-1990 Mar Sun>=15 2s 0; 1986-1987 Oct Sun>=15 2s 1; 1988-1999 Oct lastSun 2s 1;
    1991-1994 Mar Sun>=1 2s 0; 1995-2005 Mar lastSun 2s 0; 2000 Aug lastSun 2s 1;
    2001-2007 Oct lastSun 2s 1; 2006 Apr Sun>=1 2s 0; 2007 Mar lastSun 2s 0;
    2008- Apr Sun>=1 2s 0; 2008- Oct Sun>=1 2s 1.
  NewSouthWales = 1971-1985 Oct lastSun 2s 1; 1972 Feb 27 2s 0; 1973-1981 Mar Sun>=1 2s 0;
    1982 Apr Sun>=1 2s 0; 1983-1985 Mar Sun>=1 2s 0; 1986-1989 Mar Sun>=15 2s 0; 1986 Oct 19 2s 1;
    1987-1999 Oct lastSun 2s 1; 1990-1995 Mar Sun>=1 2s 0; 1996-2005 Mar lastSun 2s 0;
    2000 Aug lastSun 2s 1; 2001-2007 Oct lastSun 2s 1; 2006 Apr Sun>=1 2s 0;
    2007 Mar lastSun 2s 0; 2008- Apr Sun>=1 2s 0; 2008- Oct Sun>=1 2s 1.
  LordHowe = 1981-1984 Oct lastSun 2 1; 1982-1985 Mar Sun>=1 2 0; 1985 Oct lastSun 2 0:30;
    1986-1989 Mar Sun>=15 2 0; 1986 Oct 19 2 0:30; 1987-1999 Oct lastSun 2 0:30;
    1990-1995 Mar Sun>=1 2 0; 1996-2005 Mar lastSun 2 0; 2000 Aug lastSun 2 0:30;
    2001-2007 Oct lastSun 2 0:30; 2006 Apr Sun>=1 2 0; 2007 Mar lastSun 2 0; 2008- Apr Sun>=1 2 0;
    2008- Oct Sun>=1 2 0:30.
  Fiji = 1998-1999 Nov Sun>=1 2 1; 1999-2000 Feb lastSun 3 0; 2009 Nov 29 2 1;
    2010 Mar lastSun 3 0; 2010-2013 Oct Sun>=21 2 1; 2011 Mar Sun>=1 3 0;
    2012-2013 Jan Sun>=18 3 0; 2014 Jan Sun>=18 2 0; 2014-2018 Nov Sun>=1 2 1;
    2015-2021 Jan Sun>=12 3 0; 2019 Nov Sun>=8 2 1; 2020 Dec 20 2 1.
  Guam = 1959 Jun 27 2 1; 1961 Jan 29 2 0; 1967 Sep 1 2 1; 1969 Jan 26 0:1 0; 1969 Jun 22 2 1;
    1969 Aug 31 2 0; 1970-1971 Apr lastSun 2 1; 1970-1971 Sep Sun>=1 2 0; 1973 Dec 16 2 1;
    1974 Feb 24 2 0; 1976 May 26 2 1; 1976 Aug 22 2:1 0; 1977 Apr 24 2 1; 1977 Aug 28 2 0.
  NewCaledonia = 1977-1978 Dec Sun>=1 0 1; 1978-1979 Feb 27 0 0; 1996 Dec 1 2s 1; 1997 Mar 2 2s 0.
  NewZealand = 1927 Nov 6 2 1; 1928 Mar 4 2 0; 1928-1933 Oct Sun>=8 2 0:30;
    1929-1933 Mar Sun>=15 2 0; 1934-1940 Apr lastSun 2 0; 1934-1940 Sep lastSun 2 0:30;
    1946 Jan 1 0 0; 1974 Nov Sun>=1 2s 1; 1975 Feb lastSun 2s 0; 1975-1988 Oct lastSun 2s 1;
    1976-1989 Mar Sun>=1 2s 0; 1989 Oct Sun>=8 2s 1; 1990-2006 Oct Sun>=1 2s 1;
    1990-2007 Mar Sun>=15 2s 0; 2007- Sep lastSun 2s 1; 2008- Apr Sun>=1 2s 0.
  Chatham = 1974 Nov Sun>=1 2:45s 1; 1975 Feb lastSun 2:45s 0; 1975-1988 Oct lastSun 2:45s 1;
    1976-1989 Mar Sun>=1 2:45s 0; 1989 Oct Sun>=8 2:45s 1; 1990-2006 Oct Sun>=1 2:45s 1;
    1990-2007 Mar Sun>=15 2:45s 0; 2007- Sep lastSun 2:45s 1; 2008- Apr Sun>=1 2:45s 0.
  CookIslands = 1978 Nov 12 0 0:30; 1979-1991 Mar Sun>=1 0 0; 1979-1990 Oct lastSun 0 0:30.
  Samoa = 2010 Sep lastSun 0 1; 2011 Apr Sat>=1 4 0; 2011 Sep lastSat 3 1;
    2012-2021 Apr Sun>=1 4 0; 2012-2020 Sep lastSun 3 1.
  Tonga = 1999 Oct 7 2s 1; 2000 Mar 19 2s 0; 2000-2001 Nov Sun>=1 2 1; 2001-2002 Jan lastSun 2 0;
    2016 Nov Sun>=1 2 1; 2017 Jan Sun>=15 3 0.
  Vanuatu = 1973 Dec 22 12u 1; 1974 Mar 30 12u 0; 1983-1991 Sep Sat>=22 24 1;
    1984-1991 Mar Sat>=22 24 0; 1992-1993 Jan Sat>=22 24 0; 1992 Oct Sat>=22 24 1."

/-- The zones. -/
def oceansZones : String := "
  Pacific/Apia = 12:33:4 - 1892 Jul 5; -11:26:56 - 1911; -11:30 - 1950; -11 Samoa 2011 Dec 29 24;
    13 Samoa.
  Pacific/Auckland = 11:39:4 - 1868 Nov 2; 11:30 NewZealand 1946; 12 NewZealand.
  Pacific/Bougainville = 10:22:16 - 1880; 9:48:32 - 1895; 10 - 1942 Jul; 9 - 1945 Aug 21;
    10 - 2014 Dec 28 2; 11 -.
  Pacific/Chatham = 12:13:48 - 1868 Nov 2; 12:15 - 1946; 12:45 Chatham.
  Pacific/Easter = -7:17:28 - 1890; -7:17:28 - 1932 Sep; -7 Chile 1982 Mar 14 3u; -6 Chile.
  Pacific/Efate = 11:13:16 - 1912 Jan 13; 11 Vanuatu.
  Pacific/Fakaofo = -11:24:56 - 1901; -11 - 2011 Dec 30; 13 -.
  Pacific/Fiji = 11:55:44 - 1915 Oct 26; 12 Fiji.
  Pacific/Galapagos = -5:58:24 - 1931; -5 - 1986; -6 Ecuador.
  Pacific/Gambier = -8:59:48 - 1912 Oct; -9 -.
  Pacific/Guadalcanal = 10:39:48 - 1912 Oct; 11 -.
  Pacific/Guam = -14:21 - 1844 Dec 31; 9:39 - 1901; 10 - 1941 Dec 10; 9 - 1944 Jul 31;
    10 Guam 2000 Dec 23; 10 -.
  Pacific/Honolulu = -10:31:26 - 1896 Jan 13 12; -10:30 - 1933 Apr 30 2; -10:30 1 1933 May 21 12;
    -10:30 US 1947 Jun 8 2; -10 -.
  Pacific/Kanton = 0 - 1937 Aug 31; -12 - 1979 Oct; -11 - 1994 Dec 31; 13 -.
  Pacific/Kiritimati = -10:29:20 - 1901; -10:40 - 1979 Oct; -10 - 1994 Dec 31; 14 -.
  Pacific/Kosrae = -13:8:4 - 1844 Dec 31; 10:51:56 - 1901; 11 - 1914 Oct; 9 - 1919 Feb; 11 - 1937;
    10 - 1941 Apr; 9 - 1945 Aug; 11 - 1969 Oct; 12 - 1999; 11 -.
  Pacific/Kwajalein = 11:9:20 - 1901; 11 - 1937; 10 - 1941 Apr; 9 - 1944 Feb 6; 11 - 1969 Oct;
    -12 - 1993 Aug 20 24; 12 -.
  Pacific/Marquesas = -9:18 - 1912 Oct; -9:30 -.
  Pacific/Nauru = 11:7:40 - 1921 Jan 15; 11:30 - 1942 Aug 29; 9 - 1945 Sep 8;
    11:30 - 1979 Feb 10 2; 12 -.
  Pacific/Niue = -11:19:40 - 1952 Oct 16; -11:20 - 1964 Jul; -11 -.
  Pacific/Norfolk = 11:11:52 - 1901; 11:12 - 1951; 11:30 - 1974 Oct 27 2s; 11:30 1 1975 Mar 2 2s;
    11:30 - 2015 Oct 4 2s; 11 - 2019 Jul; 11 NewSouthWales.
  Pacific/Noumea = 11:5:48 - 1912 Jan 13; 11 NewCaledonia.
  Pacific/Pago_Pago = 12:37:12 - 1892 Jul 5; -11:22:48 - 1911; -11 -.
  Pacific/Palau = -15:2:4 - 1844 Dec 31; 8:57:56 - 1901; 9 -.
  Pacific/Pitcairn = -8:40:20 - 1901; -8:30 - 1998 Apr 27; -8 -.
  Pacific/Port_Moresby = 9:48:40 - 1880; 9:48:32 - 1895; 10 -.
  Pacific/Rarotonga = 13:20:56 - 1899 Dec 26; -10:39:4 - 1952 Oct 16; -10:30 - 1978 Nov 12;
    -10 CookIslands.
  Pacific/Tahiti = -9:58:16 - 1912 Oct; -10 -.
  Pacific/Tarawa = 11:32:4 - 1901; 12 -.
  Pacific/Tongatapu = 12:19:12 - 1945 Sep 10; 12:20 - 1961; 13 - 1999; 13 Tonga.
  Australia/Adelaide = 9:14:20 - 1895 Feb; 9 - 1899 May; 9:30 Australia 1971; 9:30 SouthAustralia.
  Australia/Brisbane = 10:12:8 - 1895; 10 Australia 1971; 10 Queensland.
  Australia/Broken_Hill = 9:25:48 - 1895 Feb; 10 - 1896 Aug 23; 9 - 1899 May; 9:30 Australia 1971;
    9:30 NewSouthWales 2000; 9:30 SouthAustralia.
  Australia/Darwin = 8:43:20 - 1895 Feb; 9 - 1899 May; 9:30 Australia.
  Australia/Eucla = 8:35:28 - 1895 Dec; 8:45 Australia 1943 Jul; 8:45 WesternAustralia.
  Australia/Hobart = 9:49:16 - 1895 Sep; 10 Tasmania 1919 Oct 24; 10 Australia 1967; 10 Tasmania.
  Australia/Lindeman = 9:55:56 - 1895; 10 Australia 1971; 10 Queensland 1992 Jul;
    10 HolidayIslands.
  Australia/Lord_Howe = 10:36:20 - 1895 Feb; 10 - 1981 Mar; 10:30 LordHowe 1985 Jul;
    10:30 LordHowe.
  Australia/Melbourne = 9:39:52 - 1895 Feb; 10 Australia 1971; 10 Victoria.
  Australia/Perth = 7:43:24 - 1895 Dec; 8 Australia 1943 Jul; 8 WesternAustralia.
  Australia/Sydney = 10:4:52 - 1895 Feb; 10 Australia 1971; 10 NewSouthWales.
  Atlantic/Azores = -1:42:40 - 1884; -1:54:32 - 1912 Jan 1 2u; -2 Portugal 1942 Apr 25 22s;
    -2 Portugal 1942 Aug 15 22s; -2 Portugal 1943 Apr 17 22s; -2 Portugal 1943 Aug 28 22s;
    -2 Portugal 1944 Apr 22 22s; -2 Portugal 1944 Aug 26 22s; -2 Portugal 1945 Apr 21 22s;
    -2 Portugal 1945 Aug 25 22s; -2 Portugal 1966 Oct 2 2s; -1 - 1982 Mar 28 0s; -1 Portugal 1986;
    -1 EU 1992 Dec 27 1s; 0 EU 1993 Jun 17 1u; -1 EU.
  Atlantic/Bermuda = -4:19:18 - 1890; -4:19:18 Bermuda 1930 Jan 1 2; -4 Bermuda 1974 Apr 28 2;
    -4 Canada 1976; -4 US.
  Atlantic/Canary = -1:1:36 - 1922 Mar; -1 - 1946 Sep 30 1; 0 - 1980 Apr 6 0s; 0 1 1980 Sep 28 1u;
    0 EU.
  Atlantic/Cape_Verde = -1:34:4 - 1912 Jan 1 2u; -2 - 1942 Sep; -2 1 1945 Oct 15;
    -2 - 1975 Nov 25 2; -1 -.
  Atlantic/Faroe = -0:27:4 - 1908 Jan 11; 0 - 1981; 0 EU.
  Atlantic/Madeira = -1:7:36 - 1884; -1:7:36 - 1912 Jan 1 1u; -1 Portugal 1942 Apr 25 22s;
    -1 Portugal 1942 Aug 15 22s; -1 Portugal 1943 Apr 17 22s; -1 Portugal 1943 Aug 28 22s;
    -1 Portugal 1944 Apr 22 22s; -1 Portugal 1944 Aug 26 22s; -1 Portugal 1945 Apr 21 22s;
    -1 Portugal 1945 Aug 25 22s; -1 Portugal 1966 Oct 2 2s; 0 - 1982 Apr 4;
    0 Portugal 1986 Jul 31; 0 EU.
  Atlantic/South_Georgia = -2:26:8 - 1890; -2 -.
  Atlantic/Stanley = -3:51:24 - 1890; -3:51:24 - 1912 Mar 12; -4 Falklands 1983 May;
    -3 Falklands 1985 Sep 15; -4 Falklands 2010 Sep 5 2; -3 -.
  Indian/Chagos = 4:49:40 - 1907; 5 - 1996; 6 -.
  Indian/Maldives = 4:54 - 1880; 4:54 - 1960; 5 -.
  Indian/Mauritius = 3:50 - 1907; 4 Mauritius.
  Antarctica/Casey = 0 - 1969; 8 - 2009 Oct 18 2; 11 - 2010 Mar 5 2; 8 - 2011 Oct 28 2;
    11 - 2012 Feb 21 17u; 8 - 2016 Oct 22; 11 - 2018 Mar 11 4; 8 - 2018 Oct 7 4;
    11 - 2019 Mar 17 3; 8 - 2019 Oct 4 3; 11 - 2020 Mar 8 3; 8 - 2020 Oct 4 0:1; 11 - 2021 Mar 14;
    8 - 2021 Oct 3 0:1; 11 - 2022 Mar 13; 8 - 2022 Oct 2 0:1; 11 - 2023 Mar 9 3; 8 -.
  Antarctica/Davis = 0 - 1957 Jan 13; 7 - 1964 Nov; 0 - 1969 Feb; 7 - 2009 Oct 18 2;
    5 - 2010 Mar 10 20u; 7 - 2011 Oct 28 2; 5 - 2012 Feb 21 20u; 7 -.
  Antarctica/Macquarie = 0 - 1899 Nov; 10 - 1916 Oct 1 2; 10 1 1917 Feb;
    10 Australia 1919 Apr 1 0s; 0 - 1948 Mar 25; 10 Australia 1967; 10 Tasmania 2010; 10 1 2011;
    10 Tasmania.
  Antarctica/Mawson = 0 - 1954 Feb 13; 6 - 2009 Oct 18 2; 5 -.
  Antarctica/Palmer = 0 - 1965; -4 Argentina 1969 Oct 5; -3 Argentina 1982 May;
    -4 Chile 2016 Dec 4; -3 -.
  Antarctica/Rothera = 0 - 1976 Dec; -3 -.
  Antarctica/Troll = 0 - 2005 Feb 12; 0 Troll.
  Antarctica/Vostok = 0 - 1957 Dec 16; 7 - 1994 Feb; 0 - 1994 Nov; 7 - 2023 Dec 18 2; 5 -."

end ZoneData

end TransitDwell
